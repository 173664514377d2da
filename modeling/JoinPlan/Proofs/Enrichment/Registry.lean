import JoinPlan.Enrichment.Registry
import Mathlib.Data.List.Forall2
import Mathlib.Data.List.Induction

/-!
# What a registry remembers

After any changes, a registry has under a name the function that was registered last under that name
and not taken out again since, whatever the case of ASCII letters was. Where there is none a call
means the built-in function, also when there was one before.
-/

namespace JoinPlan

/-! ## Names in upper and lower case -/

/-- Whether two characters are the same, or one is the lower case of the other, an ASCII letter. -/
def SameLetter (c d : Char) : Prop :=
  c = d ∨ c.isUpper = true ∧ d.toNat = c.toNat + 32 ∨ d.isUpper = true ∧ c.toNat = d.toNat + 32

/-- Whether two names differ in nothing but the case of ASCII letters. -/
def SameUpToCase (a b : String) : Prop :=
  List.Forall₂ SameLetter a.toList b.toList

instance (c d : Char) : Decidable (SameLetter c d) :=
  inferInstanceAs (Decidable (_ ∨ _))

instance (a b : String) : Decidable (SameUpToCase a b) :=
  inferInstanceAs (Decidable (List.Forall₂ SameLetter a.toList b.toList))

theorem isUpper_iff_val {c : Char} : c.isUpper = true ↔ c.val ≥ 'A'.val ∧ c.val ≤ 'Z'.val :=
  decide_eq_true_iff

theorem isUpper_iff {c : Char} : c.isUpper = true ↔ 65 ≤ c.toNat ∧ c.toNat ≤ 90 := by
  rw [isUpper_iff_val]
  simp [UInt32.le_iff_toNat_le]

theorem toNat_toLower (c : Char) :
    c.toLower.toNat = if c.isUpper then c.toNat + 32 else c.toNat := by
  unfold Char.toLower
  by_cases h : c.isUpper = true
  · have hbound : c.val.toNat ≤ 90 := (isUpper_iff.mp h).2
    rw [dif_pos (isUpper_iff_val.mp h), if_pos h]
    show (c.val + 32).toNat = c.val.toNat + 32
    rw [UInt32.toNat_add]
    exact Nat.mod_eq_of_lt (show c.val.toNat + 32 < 2 ^ 32 by omega)
  · rw [dif_neg (mt isUpper_iff_val.mpr h), if_neg h]

theorem toLower_char_eq_iff {c d : Char} : c.toLower = d.toLower ↔ SameLetter c d := by
  rw [← Char.toNat_inj, toNat_toLower, toNat_toLower, SameLetter, ← Char.toNat_inj]
  simp only [isUpper_iff]
  split <;> split <;> omega

theorem toLower_eq_iff {a b : String} : a.toLower = b.toLower ↔ SameUpToCase a b := by
  show a.map Char.toLower = b.map Char.toLower ↔ SameUpToCase a b
  rw [← String.toList_inj, String.toList_map, String.toList_map, SameUpToCase,
    ← List.forall₂_eq_eq_eq, List.forall₂_map_left_iff, List.forall₂_map_right_iff]
  simp only [toLower_char_eq_iff]

/-! ## Changes -/

/-- A change of a registry. -/
inductive Change where
  | register (name : String) (factory : FunctionFactory)
  | deregister (name : String)

namespace Change

/-- Whether a change puts a function under a name. -/
def Registers (c : Change) (name : String) (factory : FunctionFactory) : Prop :=
  ∃ written, c = .register written factory ∧ SameUpToCase written name

/-- Whether a change takes out what is under a name. -/
def Deregisters (c : Change) (name : String) : Prop :=
  ∃ written, c = .deregister written ∧ SameUpToCase written name

def name : Change → String
  | .register name _ | .deregister name => name

/-- What a change answers, and the registry behind it. -/
def apply (c : Change) (r : Registry) : Bool × Registry :=
  match c with
  | .register name factory => r.register name factory
  | .deregister name => r.deregister name

variable {written name : String} {made factory : FunctionFactory}

@[simp]
theorem registers_register :
    (register written made).Registers name factory ↔
      made = factory ∧ SameUpToCase written name := by
  constructor
  · rintro ⟨_, ⟨⟩, hsame⟩
    exact ⟨rfl, hsame⟩
  · rintro ⟨rfl, hsame⟩
    exact ⟨written, rfl, hsame⟩

@[simp]
theorem deregisters_deregister :
    (deregister written).Deregisters name ↔ SameUpToCase written name := by
  constructor
  · rintro ⟨_, ⟨⟩, hsame⟩
    exact hsame
  · exact fun hsame => ⟨written, rfl, hsame⟩

@[simp]
theorem not_registers_deregister : ¬(deregister written).Registers name factory := by
  rintro ⟨_, h, -⟩
  cases h

@[simp]
theorem not_deregisters_register : ¬(register written made).Deregisters name := by
  rintro ⟨_, h, -⟩
  cases h

/-- Whether one of the changes has a property, and all behind it another. -/
def Since (P Q : Change → Prop) (changes : List Change) : Prop :=
  ∃ before change behind, changes = before ++ change :: behind ∧ P change ∧ ∀ c ∈ behind, Q c

/-- Whether a function was registered under a name and none was taken out since. -/
def Registered (changes : List Change) (name : String) : Prop :=
  Since (∃ factory, ·.Registers name factory) (¬·.Deregisters name) changes

/-- Whether a function was registered under a name, and none was registered or taken out since. -/
def Latest (changes : List Change) (name : String) (factory : FunctionFactory) : Prop :=
  Since (·.Registers name factory)
    (fun c => ¬c.Deregisters name ∧ ∀ other, ¬c.Registers name other) changes

variable {changes : List Change} {c : Change}

theorem not_since_nil {P Q : Change → Prop} : ¬Since P Q [] := by
  rintro ⟨before, change, behind, hsplit, -⟩
  cases before <;> cases hsplit

theorem since_concat {P Q : Change → Prop} :
    Since P Q (changes ++ [c]) ↔ P c ∨ Since P Q changes ∧ Q c := by
  constructor
  · rintro ⟨before, change, behind, hsplit, hP, hQ⟩
    -- The last change is the one that has the first property, or it stands behind that one.
    rcases behind.eq_nil_or_concat with rfl | ⟨behind, last, rfl⟩
    · obtain ⟨-, hlast⟩ := List.append_inj' hsplit rfl
      cases hlast
      exact Or.inl hP
    · rw [List.concat_eq_append, ← List.cons_append, ← List.append_assoc] at hsplit
      obtain ⟨hfront, hlast⟩ := List.append_inj' hsplit rfl
      cases hlast
      rw [List.concat_eq_append, List.forall_mem_append, List.forall_mem_singleton] at hQ
      exact Or.inr ⟨⟨before, change, behind, hfront, hP, hQ.1⟩, hQ.2⟩
  · rintro (hP | ⟨⟨before, change, behind, rfl, hP, hQ⟩, hc⟩)
    · exact ⟨changes, c, [], rfl, hP, nofun⟩
    · refine ⟨before, change, behind ++ [c], by simp, hP, ?_⟩
      exact List.forall_mem_append.mpr ⟨hQ, List.forall_mem_singleton.mpr hc⟩

theorem latest_concat :
    Latest (changes ++ [c]) name factory ↔
      c.Registers name factory ∨ Latest changes name factory ∧
        ¬c.Deregisters name ∧ ∀ other, ¬c.Registers name other :=
  since_concat

theorem registered_concat :
    Registered (changes ++ [c]) name ↔
      (∃ factory, c.Registers name factory) ∨ Registered changes name ∧ ¬c.Deregisters name :=
  since_concat

/-- What was registered under a name is there until it is taken out, and what is registered last
comes first. -/
theorem registered_iff : Registered changes name ↔ ∃ factory, Latest changes name factory := by
  induction changes using List.reverseRecOn with
  | nil => exact iff_of_false not_since_nil fun ⟨_, h⟩ => not_since_nil h
  | append_singleton changes c ih =>
    simp only [registered_concat, latest_concat, ih]
    constructor
    · rintro (⟨factory, hc⟩ | ⟨⟨factory, hlatest⟩, hkept⟩)
      · exact ⟨factory, Or.inl hc⟩
      · -- What was there is still the latest unless the last change puts another in its place.
        by_cases hc : ∃ other, c.Registers name other
        · obtain ⟨other, hc⟩ := hc
          exact ⟨other, Or.inl hc⟩
        · exact ⟨factory, Or.inr ⟨hlatest, hkept, not_exists.mp hc⟩⟩
    · rintro ⟨factory, hc | ⟨hlatest, hkept, -⟩⟩
      · exact Or.inl ⟨factory, hc⟩
      · exact Or.inr ⟨⟨factory, hlatest⟩, hkept⟩

end Change

/-! ## Registries -/

namespace Registry

open Change

variable {r : Registry} {name : String} {c : Change} {factory : FunctionFactory}

/-- The registry behind changes of one that has no functions. -/
def after (changes : List Change) : Registry :=
  changes.foldl (fun r c => (c.apply r).2) empty

theorem after_concat (changes : List Change) (c : Change) :
    after (changes ++ [c]) = (c.apply (after changes)).2 := by
  rw [after, List.foldl_append]
  rfl

theorem answer_apply : (c.apply r).1 = (r.get? c.name).isSome := by
  cases c <;> rfl

theorem get?_register (written name : String) (made : FunctionFactory) :
    (r.register written made).2.get? name =
      if SameUpToCase written name then some made else r.get? name := by
  simp only [← toLower_eq_iff, eq_comm (a := written.toLower)]
  exact Dict.get?_insert _ _ _ _

theorem get?_deregister (written name : String) :
    (r.deregister written).2.get? name =
      if SameUpToCase written name then none else r.get? name := by
  simp only [← toLower_eq_iff, eq_comm (a := written.toLower)]
  exact Dict.get?_erase _ _ _

/-- A change answers for one name and leaves what is under others. -/
theorem get?_apply_iff :
    (c.apply r).2.get? name = some factory ↔
      c.Registers name factory ∨ r.get? name = some factory ∧
        ¬c.Deregisters name ∧ ∀ other, ¬c.Registers name other := by
  cases c with
  | register written made =>
    rw [apply, get?_register]
    by_cases hsame : SameUpToCase written name <;> simp [hsame]
  | deregister written =>
    rw [apply, get?_deregister]
    by_cases hsame : SameUpToCase written name <;> simp [hsame]

/-- Under a name is what was registered latest. -/
theorem get?_after_iff {changes : List Change} :
    (after changes).get? name = some factory ↔ Latest changes name factory := by
  induction changes using List.reverseRecOn with
  | nil => exact iff_of_false nofun not_since_nil
  | append_singleton changes c ih =>
    rw [after_concat, get?_apply_iff, ih, latest_concat]

theorem isSome_get?_after_iff {changes : List Change} :
    ((after changes).get? name).isSome ↔ Registered changes name := by
  rw [Option.isSome_iff_exists, registered_iff]
  simp only [get?_after_iff]

theorem resolve_of_latest {changes : List Change} {call : FunctionCall}
    (h : Latest changes call.function factory) : (after changes).resolve call = factory call := by
  rw [resolve, get?_after_iff.mpr h]

theorem resolve_of_not_registered {changes : List Change} {call : FunctionCall}
    (h : ¬Registered changes call.function) : (after changes).resolve call = call.builtin := by
  rw [← isSome_get?_after_iff, Option.not_isSome_iff_eq_none] at h
  rw [resolve, h]

/-- Behind any changes, a change answers whether a function was registered under its name and not
taken out since. A call means the function that was registered latest under its name, where there is
one, and else the built-in function, which so comes back when the function in its place is taken
out. -/
theorem answers_and_resolves (changes : List Change) :
    (∀ change : Change,
      (change.apply (after changes)).1 = true ↔ Registered changes change.name) ∧
    (∀ name, Registered changes name ↔ ∃ factory, Latest changes name factory) ∧
    (∀ call factory, Latest changes call.function factory →
      (after changes).resolve call = factory call) ∧
    (∀ call, ¬Registered changes call.function → (after changes).resolve call = call.builtin) ∧
    ∀ name call, SameUpToCase name call.function →
      (after (changes ++ [.deregister name])).resolve call = call.builtin := by
  refine ⟨fun change => ?_, fun name => registered_iff, fun call factory => resolve_of_latest,
    fun call => resolve_of_not_registered, fun name call hsame => ?_⟩
  · rw [answer_apply, isSome_get?_after_iff]
  · apply resolve_of_not_registered
    rw [registered_concat]
    rintro (⟨factory, written, h, -⟩ | ⟨-, hkept⟩)
    · cases h
    · exact hkept ⟨name, rfl, hsame⟩

/-- A function that does nothing but fail with a text. -/
def refusing (text : String) : FunctionFactory :=
  fun _ => .error (.reported .execution text)

/-- Of two functions under the name of a built-in one the later counts until it is taken out. -/
theorem answers_and_resolves_refusing :
    ((Change.register "JSON_FIELD" (refusing "late")).apply
      (after [.register "Json_Field" (refusing "early")])).1 = true ∧
    (after [.register "Json_Field" (refusing "early"),
        .register "JSON_FIELD" (refusing "late")]).resolve ⟨"json_field", ["id"], "key"⟩ =
      .error (.reported .execution "late") ∧
    (after ([.register "Json_Field" (refusing "early"), .register "JSON_FIELD" (refusing "late")] ++
        [.deregister "json_FIELD"])).resolve ⟨"json_field", ["id"], "key"⟩ =
      FunctionCall.builtin ⟨"json_field", ["id"], "key"⟩ ∧
    (after [.register "Json_Field" (refusing "early")]).resolve
        ⟨"window_boundary_time", ["window_end"], "end"⟩ =
      FunctionCall.builtin ⟨"window_boundary_time", ["window_end"], "end"⟩ := by
  have hlower : SameUpToCase "Json_Field" "JSON_FIELD" := by decide
  have hlate : SameUpToCase "JSON_FIELD" "json_field" := by decide
  have hout : SameUpToCase "json_FIELD" "json_field" := by decide
  have hapart : ¬SameUpToCase "Json_Field" "window_boundary_time" := by decide
  refine ⟨?_, ?_, ?_, ?_⟩
  · refine ((answers_and_resolves _).1 _).mpr ?_
    exact ⟨[], _, [], rfl, ⟨_, "Json_Field", rfl, hlower⟩, nofun⟩
  · refine (answers_and_resolves _).2.2.1 _ (refusing "late") ?_
    exact ⟨[_], _, [], rfl, ⟨"JSON_FIELD", rfl, hlate⟩, nofun⟩
  · exact (answers_and_resolves _).2.2.2.2 _ _ hout
  · refine (answers_and_resolves _).2.2.2.1 _ ?_
    rw [← List.nil_append [_], registered_concat]
    rintro (⟨_, _, h, hsame⟩ | ⟨h, -⟩)
    · cases h
      exact hapart hsame
    · exact not_since_nil h

end Registry

end JoinPlan
