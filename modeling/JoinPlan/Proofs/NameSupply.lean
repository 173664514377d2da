import JoinPlan.NameSupply

/-!
# No name is given twice

A name shows the text that was asked for and how often it was asked for. So a supply never gives a
name that it gave before, and what two stretches of requests are given has no name in common.
-/

namespace JoinPlan.NameSupply

/-! ## Numbered texts -/

/-- The name for a text that is asked for the `n`-th time. -/
def numbered (stem : String) (n : Nat) : String :=
  stem ++ "_" ++ toString n

theorem underscore_not_mem_toDigits (n : Nat) : '_' ∉ Nat.toDigits 10 n := by
  intro h
  have hdigit := Nat.isDigit_of_mem_toDigits (by decide) (by decide) h
  cases hdigit

theorem toList_numbered (stem : String) (n : Nat) :
    (numbered stem n).toList = stem.toList ++ '_' :: Nat.toDigits 10 n := by
  rw [numbered, Nat.toString_eq_ofList_toDigits]
  simp

/-- The number of a name begins behind the last underscore. -/
theorem numbered_inj {stem stem' : String} {n n' : Nat} :
    numbered stem n = numbered stem' n' ↔ stem = stem' ∧ n = n' := by
  refine ⟨fun h => ?_, fun ⟨hstem, hn⟩ => hstem ▸ hn ▸ rfl⟩
  have hlist := congrArg String.toList h
  rw [toList_numbered, toList_numbered] at hlist
  -- Two last underscores stand at one place, since there is none among digits.
  have hparts : stem.toList = stem'.toList ∧ Nat.toDigits 10 n = Nat.toDigits 10 n' := by
    rcases List.append_eq_append_iff.mp hlist with
      ⟨_ | ⟨c, between⟩, hstem, hrest⟩ | ⟨_ | ⟨c, between⟩, hstem, hrest⟩
    · exact ⟨by simpa using hstem.symm, (List.cons.inj hrest).2⟩
    · have hmem : '_' ∈ Nat.toDigits 10 n := (List.cons.inj hrest).2 ▸ by simp
      exact absurd hmem (underscore_not_mem_toDigits n)
    · exact ⟨by simpa using hstem, (List.cons.inj hrest).2.symm⟩
    · have hmem : '_' ∈ Nat.toDigits 10 n' := (List.cons.inj hrest).2 ▸ by simp
      exact absurd hmem (underscore_not_mem_toDigits n')
  have hnumber := congrArg (fun digits => Nat.ofDigitChars 10 digits 0) hparts.2
  exact ⟨String.toList_inj.mp hparts.1, by simpa using hnumber⟩

theorem numbered_ne_empty (stem : String) (n : Nat) : numbered stem n ≠ "" := by
  intro h
  have hlist := congrArg String.toList h
  rw [toList_numbered] at hlist
  exact List.append_ne_nil_of_right_ne_nil _ (List.cons_ne_nil _ _) hlist

/-! ## Names that were given -/

/-- Whether a supply has given a name. -/
def Gave (ns : NameSupply) (name : String) : Prop :=
  ∃ stem n, n < ns.count stem ∧ name = numbered stem (n + 1)

theorem count_new (text : String) : new.count text = 0 := by
  simp [new, count]

theorem fresh_name (ns : NameSupply) (parts : List String) :
    (ns.fresh parts).1 = numbered (stem parts) (ns.count (stem parts) + 1) := rfl

theorem count_fresh (ns : NameSupply) (parts : List String) (s : String) :
    (ns.fresh parts).2.count s = if s = stem parts then ns.count s + 1 else ns.count s := by
  unfold fresh count
  simp only [Dict.get?_insert]
  split
  · rename_i h
    rw [h]
    rfl
  · rfl

theorem not_gave_fresh (ns : NameSupply) (parts : List String) : ¬ns.Gave (ns.fresh parts).1 := by
  rintro ⟨s, n, hn, h⟩
  rw [fresh_name, numbered_inj] at h
  obtain ⟨rfl, hcount⟩ := h
  omega

theorem gave_fresh_iff {ns : NameSupply} {parts : List String} {name : String} :
    (ns.fresh parts).2.Gave name ↔ name = (ns.fresh parts).1 ∨ ns.Gave name := by
  constructor
  · rintro ⟨s, n, hn, rfl⟩
    rw [count_fresh] at hn
    split at hn
    · rename_i hs
      by_cases hlast : n = ns.count s
      · exact Or.inl (by rw [fresh_name, ← hs, hlast])
      · exact Or.inr ⟨s, n, by omega, rfl⟩
    · exact Or.inr ⟨s, n, hn, rfl⟩
  · rintro (rfl | ⟨s, n, hn, rfl⟩)
    · exact ⟨stem parts, ns.count (stem parts), by simp [count_fresh], fresh_name ns parts⟩
    · refine ⟨s, n, ?_, rfl⟩
      rw [count_fresh]
      split <;> omega

/-! ## The start of a name -/

/-- A text that is asked for starts with the first of its parts. -/
theorem stem_cons {first : String} (hfirst : first ≠ "") (parts : List String) :
    ∃ rest, stem (first :: parts) = first ++ rest := by
  unfold stem
  rw [List.filter_cons_of_pos (by simpa using hfirst)]
  cases parts.filter (· ≠ "") with
  | nil => exact ⟨"", by simp⟩
  | cons second rest => exact ⟨_, by rw [String.intercalate_cons_cons, String.append_assoc]⟩

/-- A name is longer than the first of the parts that it was asked for with. -/
theorem length_lt_fresh (ns : NameSupply) (first : String) (parts : List String) :
    first.length < (ns.fresh (first :: parts)).1.length := by
  have hstem : first.length ≤ (stem (first :: parts)).length := by
    by_cases hempty : first = ""
    · simp [hempty]
    · obtain ⟨rest, hrest⟩ := stem_cons hempty parts
      simp [hrest]
  rw [fresh_name, numbered, String.length_append, String.length_append]
  have hunderscore : "_".length = 1 := rfl
  omega

/-! ## Requests under a text -/

/-- Whether the texts that were asked for between two moments all start with the given one. -/
def AsksUnder (first : String) (before after : NameSupply) : Prop :=
  ∀ text, ¬first.toList <+: text.toList → after.count text = before.count text

theorem AsksUnder.trans {first : String} {a b c : NameSupply} (h : AsksUnder first a b)
    (h' : AsksUnder first b c) : AsksUnder first a c :=
  fun text htext => (h' text htext).trans (h text htext)

theorem asksUnder_fresh {first : String} (hfirst : first ≠ "") (ns : NameSupply)
    (parts : List String) : AsksUnder first ns (ns.fresh (first :: parts)).2 := by
  intro text htext
  rw [count_fresh, if_neg]
  rintro rfl
  obtain ⟨rest, hrest⟩ := stem_cons hfirst parts
  rw [hrest, String.toList_append] at htext
  exact htext (List.prefix_append _ _)

/-! ## Stretches of requests -/

/-- Whether a supply gives, between two moments, at least these names, each of them once. -/
structure Gives (before after : NameSupply) (names : List String) : Prop where
  keeps : ∀ name, before.Gave name → after.Gave name
  nodup : names.Nodup
  isNew : ∀ name ∈ names, ¬before.Gave name
  given : ∀ name ∈ names, after.Gave name

namespace Gives

variable {a b c : NameSupply} {names more : List String}

theorem nothing (ns : NameSupply) : Gives ns ns [] :=
  ⟨fun _ h => h, List.nodup_nil, nofun, nofun⟩

theorem one (ns : NameSupply) (parts : List String) :
    Gives ns (ns.fresh parts).2 [(ns.fresh parts).1] where
  keeps _ h := gave_fresh_iff.mpr (Or.inr h)
  nodup := by simp
  isNew name h := by
    rw [List.mem_singleton.mp h]
    exact not_gave_fresh ns parts
  given name h := gave_fresh_iff.mpr (Or.inl (List.mem_singleton.mp h))

/-- Names of a later stretch were not given in an earlier one. -/
theorem trans (h : Gives a b names) (h' : Gives b c more) : Gives a c (names ++ more) where
  keeps name hname := h'.keeps name (h.keeps name hname)
  nodup := by
    refine List.nodup_append.mpr ⟨h.nodup, h'.nodup, ?_⟩
    rintro name hname _ hmore rfl
    exact h'.isNew name hmore (h.given name hname)
  isNew name hname := by
    rcases List.mem_append.mp hname with hname | hname
    · exact h.isNew name hname
    · exact fun hold => h'.isNew name hname (h.keeps name hold)
  given name hname := by
    rcases List.mem_append.mp hname with hname | hname
    · exact h'.keeps name (h.given name hname)
    · exact h'.given name hname

theorem perm (h : Gives a b names) (hperm : names.Perm more) : Gives a b more where
  keeps := h.keeps
  nodup := hperm.nodup_iff.mp h.nodup
  isNew name hname := h.isNew name (hperm.mem_iff.mpr hname)
  given name hname := h.given name (hperm.mem_iff.mpr hname)

end Gives

/-! ## Runs of requests -/

/-- The names for requests that are made one after the other, and the supply behind them. -/
def freshAll : NameSupply → List (List String) → List String × NameSupply
  | ns, [] => ([], ns)
  | ns, parts :: requests =>
    let later := (ns.fresh parts).2.freshAll requests
    ((ns.fresh parts).1 :: later.1, later.2)

theorem length_freshAll (ns : NameSupply) (requests : List (List String)) :
    (ns.freshAll requests).1.length = requests.length := by
  induction requests generalizing ns with
  | nil => rfl
  | cons parts requests ih => exact congrArg (· + 1) (ih _)

theorem gives_freshAll (ns : NameSupply) (requests : List (List String)) :
    Gives ns (ns.freshAll requests).2 (ns.freshAll requests).1 := by
  induction requests generalizing ns with
  | nil => exact .nothing ns
  | cons parts requests ih => exact (Gives.one ns parts).trans (ih _)

/-- The number of a name counts the requests for its text, those of earlier runs among them. -/
theorem getElem?_freshAll (ns : NameSupply) (before : List (List String)) (parts : List String)
    (after : List (List String)) :
    (ns.freshAll (before ++ parts :: after)).1[before.length]? =
      some (numbered (stem parts)
        (ns.count (stem parts) + (before.map stem).count (stem parts) + 1)) := by
  induction before generalizing ns with
  | nil => rfl
  | cons first before ih =>
    have hlater := ih (ns.fresh first).2
    rw [List.cons_append, freshAll, List.length_cons, List.getElem?_cons_succ, hlater, count_fresh,
      List.map_cons, List.count_cons]
    by_cases hsame : stem parts = stem first
    · simp only [hsame, beq_self_eq_true, if_true]
      congr 2
      omega
    · simp only [if_neg hsame, beq_false_of_ne (Ne.symm hsame), Bool.false_eq_true, if_false]
      rfl

/-- No two of the names that a new supply gives are the same, and the name for a text that is asked
for the `k`-th time is the text and the number `k`, which has 64 bits unless there are more requests
than that. -/
theorem nodup_numbered_freshAll {requests : List (List String)} (h : requests.length < Nat.pow 2 64) :
    (new.freshAll requests).1.length = requests.length ∧ (new.freshAll requests).1.Nodup ∧
      ∀ before parts after, requests = before ++ parts :: after →
        ∃ k < Nat.pow 2 64, k = (before.map stem).count (stem parts) + 1 ∧
          (new.freshAll requests).1[before.length]? = some (stem parts ++ "_" ++ toString k) := by
  refine ⟨length_freshAll new requests, (gives_freshAll new requests).nodup, ?_⟩
  rintro before parts after rfl
  refine ⟨_, ?_, rfl, ?_⟩
  · have hcount : (before.map stem).count (stem parts) ≤ (before.map stem).length :=
      List.count_le_length
    rw [List.length_map] at hcount
    rw [List.length_append, List.length_cons] at h
    omega
  · rw [getElem?_freshAll, count_new, Nat.zero_add]
    rfl

/-- Requests for one text with different parts, for a text that looks like a name, and for none. -/
def joinRequests : List (List String) :=
  [["root", "", "join"], ["root_join"], ["root_join", "1"], [], ["root_join_1", ""], [""]]

theorem nodup_numbered_joinRequests :
    joinRequests.length < Nat.pow 2 64 ∧ (new.freshAll joinRequests).1.Nodup ∧
      (new.freshAll joinRequests).1[4]? = some "root_join_1_2" ∧
      (new.freshAll joinRequests).1[5]? = some "_2" := by
  have hlength : joinRequests.length < Nat.pow 2 64 := by decide
  obtain ⟨-, hnodup, hname⟩ := nodup_numbered_freshAll hlength
  refine ⟨hlength, hnodup, ?_, ?_⟩
  · obtain ⟨_, -, rfl, h⟩ := hname
      [["root", "", "join"], ["root_join"], ["root_join", "1"], []] ["root_join_1", ""] _ rfl
    exact h
  · obtain ⟨_, -, rfl, h⟩ := hname
      [["root", "", "join"], ["root_join"], ["root_join", "1"], [], ["root_join_1", ""]] [""] _ rfl
    exact h

end JoinPlan.NameSupply
