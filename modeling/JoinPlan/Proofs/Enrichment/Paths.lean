import JoinPlan.Enrichment.Builtin
import JoinPlan.Proofs.Decimal.Digits

/-!
# Paths into JSON values

Each step of a path leads from a value to a member or an item of it. Every part of a value that has a
path is found under it, however many slashes stand between the steps, and a path with a step that
leads nowhere gives null.
-/

namespace JoinPlan

/-! ## Steps -/

/-- Whether a text writes an index: its digits, behind any zeros and a plus sign or none. -/
def WritesIndex (text : String) (i : Nat) : Prop :=
  ∃ sign ∈ ["", "+"], ∃ zeros, text = sign ++ String.ofList (List.replicate zeros '0') ++ toString i

namespace Json

/-- Whether a step leads from a value to the member of that name or the item of that index. -/
inductive Step : Json → String → Json → Prop
  | member {members : List (String × Json)} {name : String} {part : Json}
      (h : members.lookup name = some part) : Step (.object members) name part
  | item {items : List Json} {text : String} {i : Nat} {part : Json}
      (hindex : WritesIndex text i) (h : items[i]? = some part) : Step (.array items) text part

/-- Whether steps lead from a value to a part inside it. -/
inductive Leads : Json → List String → Json → Prop
  | here (j : Json) : Leads j [] j
  | step {j k part : Json} {s : String} {path : List String} (h : Step j s k)
      (hrest : Leads k path part) : Leads j (s :: path) part

/-- Whether one of the steps from a value leads nowhere. -/
inductive Strays : Json → List String → Prop
  | lost {j : Json} {s : String} {path : List String} (h : ∀ part, ¬Step j s part) :
      Strays j (s :: path)
  | step {j k : Json} {s : String} {path : List String} (h : Step j s k) (hrest : Strays k path) :
      Strays j (s :: path)

end Json

namespace JsonField

/-! ## Indices -/

theorem writesIndex_iff {text : String} {i : Nat} :
    WritesIndex text i ↔ ∃ zeros,
      text.toList = List.replicate zeros '0' ++ Nat.toDigits 10 i ∨
        text.toList = '+' :: (List.replicate zeros '0' ++ Nat.toDigits 10 i) := by
  simp only [WritesIndex, List.mem_cons, List.not_mem_nil, or_false, exists_eq_or_imp,
    exists_eq_left, ← exists_or]
  simp only [← String.toList_inj, String.toList_append, String.toList_ofList,
    Nat.toString_eq_ofList_toDigits]
  rfl

theorem isDigit_of_mem_numeral {zeros i : Nat} {c : Char}
    (h : c ∈ List.replicate zeros '0' ++ Nat.toDigits 10 i) : c.isDigit = true := by
  rcases List.mem_append.mp h with h | h
  · rw [List.eq_of_mem_replicate h]
    rfl
  · exact Decimal.isDigit_toDigits h

theorem numeral_eq_some_iff {ds : List Char} {i : Nat} :
    (if ds.all Char.isDigit && !ds.isEmpty then some (Decimal.digitsToNat ds) else none) = some i ↔
      ∃ zeros, ds = List.replicate zeros '0' ++ Nat.toDigits 10 i := by
  constructor
  · intro h
    split at h
    · rename_i hdigits
      rw [Bool.and_eq_true, List.all_eq_true] at hdigits
      cases h
      exact Decimal.exists_zeros_append_toDigits (by rintro rfl; cases hdigits.2) hdigits.1
    · cases h
  · rintro ⟨zeros, rfl⟩
    have hdigits : (List.replicate zeros '0' ++ Nat.toDigits 10 i).all Char.isDigit = true :=
      List.all_eq_true.mpr fun c hc => isDigit_of_mem_numeral hc
    have hvalue : Decimal.digitsToNat (Nat.toDigits 10 i) = i := Nat.ofDigitChars_ten_toDigits
    rw [Decimal.digitsToNat_zeros_append, hvalue, if_pos]
    simp [hdigits]

theorem index_eq_some_iff {text : String} {i : Nat} : index? text = some i ↔ WritesIndex text i := by
  rw [index?, numeral_eq_some_iff, writesIndex_iff]
  split
  · rename_i cs htext
    refine exists_congr fun zeros => ?_
    rw [htext, List.cons.injEq]
    refine ⟨fun h => Or.inr ⟨rfl, h⟩, ?_⟩
    rintro (h | h)
    · have hplus := isDigit_of_mem_numeral (h ▸ List.mem_cons_self : '+' ∈ _)
      cases hplus
    · exact h.2
  · rename_i hplus
    exact exists_congr fun zeros => (or_iff_left (hplus _)).symm

/-! ## Following a path -/

open Json

variable {j part : Json} {s : String} {path : List String}

theorem step_eq_some_iff : step? j s = some part ↔ j.Step s part := by
  constructor
  · intro h
    unfold step? at h
    split at h
    · exact .member h
    · obtain ⟨i, hindex, h⟩ := Option.bind_eq_some_iff.mp h
      exact .item (index_eq_some_iff.mp hindex) h
    · cases h
  · intro h
    cases h with
    | member h => exact h
    | item hindex h => rw [step?, index_eq_some_iff.mpr hindex, Option.bind_some, h]

theorem step_eq_none_iff : step? j s = none ↔ ∀ part, ¬j.Step s part := by
  simp only [← step_eq_some_iff, Option.eq_none_iff_forall_ne_some, ne_eq]

theorem extract_cons : extract (s :: path) j = (step? j s).bind (extract path) :=
  List.foldlM_cons

theorem extract_eq_some_iff : extract path j = some part ↔ j.Leads path part := by
  induction path generalizing j with
  | nil =>
    refine ⟨fun h => Option.some.inj h ▸ .here j, fun h => ?_⟩
    cases h
    rfl
  | cons s path ih =>
    rw [extract_cons, Option.bind_eq_some_iff]
    simp only [ih, step_eq_some_iff]
    constructor
    · rintro ⟨k, hstep, hrest⟩
      exact .step hstep hrest
    · rintro ⟨⟩
      rename_i k hstep hrest
      exact ⟨k, hstep, hrest⟩

theorem extract_eq_none_iff : extract path j = none ↔ j.Strays path := by
  induction path generalizing j with
  | nil => exact iff_of_false nofun nofun
  | cons s path ih =>
    rw [extract_cons]
    constructor
    · intro h
      cases hstep : step? j s with
      | none => exact .lost (step_eq_none_iff.mp hstep)
      | some k =>
        rw [hstep, Option.bind_some] at h
        exact .step (step_eq_some_iff.mp hstep) (ih.mp h)
    · intro h
      cases h with
      | lost h => rw [step_eq_none_iff.mpr h, Option.bind_none]
      | step h hrest => rw [step_eq_some_iff.mpr h, Option.bind_some, ih.mpr hrest]

/-! ## Slashes between steps -/

/-- Whether a text has the steps of a path, slashes between them and any slashes at its ends. -/
inductive Joins : List String → String → Prop
  | nil : Joins [] ""
  | last (s : String) : Joins [s] s
  | step {path : List String} {text : String} (s : String) (h : Joins path text) :
      Joins (s :: path) (s ++ "/" ++ text)
  | slash {path : List String} {text : String} (h : Joins path text) : Joins path ("/" ++ text)

variable {text : String} {cs : List Char}

theorem splitAtSlashes_append (h : '/' ∉ cs) (rest : List Char) :
    splitAtSlashes (cs ++ '/' :: rest) = cs :: splitAtSlashes rest := by
  induction cs with
  | nil => rfl
  | cons c cs ih =>
    rw [List.mem_cons, not_or] at h
    rw [List.cons_append, splitAtSlashes, if_neg (Ne.symm h.1), ih h.2]

theorem splitAtSlashes_of_not_mem (h : '/' ∉ cs) : splitAtSlashes cs = [cs] := by
  induction cs with
  | nil => rfl
  | cons c cs ih =>
    rw [List.mem_cons, not_or] at h
    rw [splitAtSlashes, if_neg (Ne.symm h.1), ih h.2]

theorem steps_append (hne : s ≠ "") (hslash : '/' ∉ s.toList) (text : String) :
    steps (s ++ "/" ++ text) = s :: steps text := by
  have htext : (s ++ "/" ++ text).toList = s.toList ++ '/' :: text.toList := by simp
  rw [steps, htext, splitAtSlashes_append hslash, List.filter_cons_of_pos (by simpa using hne),
    List.map_cons, String.ofList_toList, steps]

theorem steps_of_not_mem (hne : s ≠ "") (hslash : '/' ∉ s.toList) : steps s = [s] := by
  rw [steps, splitAtSlashes_of_not_mem hslash, List.filter_cons_of_pos (by simpa using hne)]
  simp

theorem steps_slash_append (text : String) : steps ("/" ++ text) = steps text := by
  have htext : ("/" ++ text).toList = [] ++ '/' :: text.toList := by simp
  rw [steps, htext, splitAtSlashes_append List.not_mem_nil]
  rfl

theorem Joins.steps_eq (h : Joins path text) (hpath : ∀ s ∈ path, s ≠ "" ∧ '/' ∉ s.toList) :
    steps text = path := by
  induction h with
  | nil => rfl
  | last s =>
    obtain ⟨hne, hslash⟩ := hpath s List.mem_cons_self
    exact steps_of_not_mem hne hslash
  | step s h ih =>
    rw [List.forall_mem_cons] at hpath
    rw [steps_append hpath.1.1 hpath.1.2, ih hpath.2]
  | slash h ih => rw [steps_slash_append, ih hpath]

theorem make_of_joins (hne : path ≠ []) (hpath : ∀ s ∈ path, s ≠ "" ∧ '/' ∉ s.toList)
    (h : Joins path text) (output : String) : make text output = .ok ⟨path, output⟩ := by
  rw [make, h.steps_eq hpath]
  cases path with
  | nil => exact absurd rfl hne
  | cons => rfl

/-- A path makes a function, which writes the part that the steps lead to, or null where one of them
leads nowhere. What a row has under other keys stays. -/
theorem writes_part_of_path (hne : path ≠ []) (hpath : ∀ s ∈ path, s ≠ "" ∧ '/' ∉ s.toList)
    (h : Joins path text) (output : String) :
    ∃ f, make text output = .ok f ∧ f.toFunction.output = output ∧ ∀ raw row info, ∃ out,
      f.toFunction.apply raw row = .ok out ∧ f.toFunction.finish info (some out) = .ok (some out) ∧
        (∀ part, raw.Leads path part → out.get? output = some part) ∧
        (raw.Strays path → out.get? output = some .null) ∧
        ∀ key, key ≠ output → out.get? key = row.get? key := by
  refine ⟨_, make_of_joins hne hpath h output, rfl, fun raw row info =>
    ⟨_, rfl, rfl, fun part hpart => ?_, fun hlost => ?_, fun key hkey => ?_⟩⟩
  · rw [Dict.get?_insert, if_pos rfl, extract_eq_some_iff.mpr hpart, Option.getD_some]
  · rw [Dict.get?_insert, if_pos rfl, extract_eq_none_iff.mpr hlost, Option.getD_none]
  · rw [Dict.get?_insert, if_neg hkey]

def taggedUser : Json :=
  .object [("user", .object [("tags", .array [.string "a", .string "b"])])]

theorem writes_part_of_path_taggedUser :
    Joins ["user", "tags", "1"] "/user//tags/1/" ∧
      taggedUser.Leads ["user", "tags", "1"] (.string "b") ∧
      (Json.object []).Strays ["user", "tags", "1"] ∧
      ∃ f, make "/user//tags/1/" "tag" = .ok f ∧ ∀ row,
        (∃ out, f.toFunction.apply taggedUser row = .ok out ∧ out.get? "tag" = some (.string "b")) ∧
        ∃ out, f.toFunction.apply (.object []) row = .ok out ∧ out.get? "tag" = some .null := by
  have hjoins : Joins ["user", "tags", "1"] "/user//tags/1/" :=
    .slash (.step "user" (.slash (.step "tags" (.step "1" .nil))))
  have hindex : WritesIndex "1" 1 := ⟨"", by decide, 0, rfl⟩
  have hpart : taggedUser.Leads ["user", "tags", "1"] (.string "b") :=
    .step (.member rfl) (.step (.member rfl) (.step (.item hindex rfl) (.here _)))
  have hlost : (Json.object []).Strays ["user", "tags", "1"] := .lost nofun
  obtain ⟨f, hmake, -, hrun⟩ := writes_part_of_path (by decide) (by decide) hjoins "tag"
  refine ⟨hjoins, hpart, hlost, f, hmake, fun row => ⟨?_, ?_⟩⟩
  · obtain ⟨out, happly, -, hvalue, -⟩ := hrun taggedUser row Dict.empty
    exact ⟨out, happly, hvalue _ hpart⟩
  · obtain ⟨out, happly, -, -, hnull, -⟩ := hrun (.object []) row Dict.empty
    exact ⟨out, happly, hnull hlost⟩

/-- An index with a plus sign leads to the item too, although no number is printed with one. -/
theorem signed_index_leads_to_item :
    (∀ i : Nat, toString i ≠ "+1") ∧ ∃ f, make "+1" "tag" = .ok f ∧ ∀ row, ∃ out,
      f.toFunction.apply (.array [.string "a", .string "b"]) row = .ok out ∧
        out.get? "tag" = some (.string "b") := by
  constructor
  · intro i h
    have hlist := congrArg String.toList h
    rw [Nat.toString_eq_ofList_toDigits, String.toList_ofList] at hlist
    have hplus := Decimal.isDigit_toDigits (hlist ▸ List.mem_cons_self : '+' ∈ Nat.toDigits 10 i)
    cases hplus
  · refine ⟨_, make_of_joins (by decide) (by decide) (.last "+1") "tag", fun row => ⟨_, rfl, ?_⟩⟩
    rw [Dict.get?_insert, if_pos rfl]
    rfl

end JsonField

end JoinPlan
