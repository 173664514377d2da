import JoinPlan.Enrichment.Stage
import JoinPlan.Proofs.Dict
import JoinPlan.Proofs.Outcome

/-!
# The two passes of a stage

The calls of a stage write a column each. A built-in function writes it in one of the two passes,
and no other function of the stage changes it. So it does not matter to a row in which order the
calls stand, and what is under other keys stays.
-/

namespace JoinPlan

/-! ## Values under outputs -/

namespace FunctionCall

variable {valueOf : FunctionCall → Option Json} {call : FunctionCall}
  {calls calls' : List FunctionCall} {row : Row} {key : String} {v : Json}

/-- A row with the values that calls have, each under the output of its call. -/
def fill (valueOf : FunctionCall → Option Json) (calls : List FunctionCall) (row : Row) : Row :=
  row.insertAll (calls.filterMap fun call => (valueOf call).map (call.output, ·))

theorem fill_cons (call : FunctionCall) (calls : List FunctionCall) :
    fill valueOf (call :: calls) row = fill valueOf calls (fill valueOf [call] row) := by
  rw [fill, ← List.singleton_append, List.filterMap_append, Dict.insertAll_append, fill, fill]

theorem fill_of_some (h : valueOf call = some v) :
    fill valueOf [call] row = row.insert call.output v := by
  simp only [fill, List.filterMap_cons, List.filterMap_nil, h, Option.map_some]
  rfl

theorem fill_of_none (h : valueOf call = none) : fill valueOf [call] row = row := by
  simp only [fill, List.filterMap_cons, List.filterMap_nil, h, Option.map_none]
  rfl

theorem nodup_keys (hnodup : (calls.map (·.output)).Nodup) :
    ((calls.filterMap fun call => (valueOf call).map (call.output, ·)).map (·.1)).Nodup := by
  refine List.Nodup.sublist ?_ hnodup
  clear hnodup
  induction calls with
  | nil => exact .slnil
  | cons call calls ih =>
    cases hvalue : valueOf call with
    | none => simpa [hvalue] using ih.cons call.output
    | some v => simpa [hvalue] using ih

theorem fill_perm (hnodup : (calls.map (·.output)).Nodup) (hperm : calls.Perm calls') :
    fill valueOf calls row = fill valueOf calls' row :=
  Dict.insertAll_perm (nodup_keys hnodup) (hperm.filterMap _) row

theorem get?_fill_of_some (hnodup : (calls.map (·.output)).Nodup) (hcall : call ∈ calls)
    (hvalue : valueOf call = some v) : (fill valueOf calls row).get? call.output = some v := by
  apply Dict.get?_insertAll_of_mem (nodup_keys hnodup)
  exact List.mem_filterMap.mpr ⟨call, hcall, by rw [hvalue, Option.map_some]⟩

theorem get?_fill_of_none (h : ∀ call ∈ calls, call.output = key → valueOf call = none) :
    (fill valueOf calls row).get? key = row.get? key := by
  apply Dict.get?_insertAll_of_not_mem
  intro hmem
  obtain ⟨entry, hentry, hkey⟩ := List.mem_map.mp hmem
  obtain ⟨call, hcall, hsome⟩ := List.mem_filterMap.mp hentry
  obtain ⟨v, hvalue, rfl⟩ := Option.map_eq_some_iff.mp hsome
  exact absurd (hvalue.symm.trans (h call hcall hkey)) nofun

/-! ## Calls of built-in functions -/

variable {f : FieldFunction} {arg : String}

/-- What a call writes when the row arrives. -/
def arrival? (raw : Json) (call : FunctionCall) : Option Json :=
  match call.args with
  | [path] =>
    if call.function.toLower = JsonField.name then
      some ((JsonField.extract (JsonField.steps path) raw).getD .null)
    else none
  | _ => none

/-- What a call writes when the window closes. -/
def closing? (info : WindowInfo) (call : FunctionCall) : Option Json :=
  match call.args with
  | [field] =>
    if call.function.toLower = WindowBoundary.name then some ((info.get? field).getD .null)
    else none
  | _ => none

section Values

variable {raw : Json} {info : WindowInfo}

theorem arrival_of_jsonField (hargs : call.args = [arg])
    (hname : call.function.toLower = JsonField.name) :
    call.arrival? raw = some ((JsonField.extract (JsonField.steps arg) raw).getD .null) := by
  simp only [arrival?, hargs, if_pos hname]

theorem closing_of_boundary (hargs : call.args = [arg])
    (hname : call.function.toLower = WindowBoundary.name) :
    call.closing? info = some ((info.get? arg).getD .null) := by
  simp only [closing?, hargs, if_pos hname]

theorem arrival_of_boundary (hname : call.function.toLower = WindowBoundary.name) :
    call.arrival? raw = none := by
  have hother : WindowBoundary.name ≠ JsonField.name := by decide
  unfold arrival?
  split
  · rw [hname, if_neg hother]
  · rfl

theorem closing_of_jsonField (hname : call.function.toLower = JsonField.name) :
    call.closing? info = none := by
  have hother : JsonField.name ≠ WindowBoundary.name := by decide
  unfold closing?
  split
  · rw [hname, if_neg hother]
  · rfl

end Values

theorem builtin_eq_ok (h : call.builtin = .ok f) :
    ∃ arg, call.args = [arg] ∧
      (call.function.toLower = WindowBoundary.name ∧
          f = WindowBoundary.toFunction ⟨arg, call.output⟩ ∨
        call.function.toLower = JsonField.name ∧
          f = JsonField.toFunction ⟨JsonField.steps arg, call.output⟩) := by
  have harg {arg : String} (h : call.onlyArgument = .ok arg) : call.args = [arg] := by
    unfold onlyArgument at h
    split at h
    · rename_i hargs
      cases h
      exact hargs
    · cases h
  simp only [builtin] at h
  split at h
  · rename_i hname
    obtain ⟨arg, honly, h⟩ := Outcome.bind_eq_ok.mp h
    obtain ⟨b, hmake, h⟩ := Outcome.bind_eq_ok.mp h
    refine ⟨arg, harg honly, Or.inl ⟨hname, ?_⟩⟩
    unfold WindowBoundary.make at hmake
    split at hmake
    · cases hmake
      exact (Except.ok.inj h).symm
    · cases hmake
  · split at h
    · rename_i hname
      obtain ⟨arg, honly, h⟩ := Outcome.bind_eq_ok.mp h
      obtain ⟨field, hmake, h⟩ := Outcome.bind_eq_ok.mp h
      refine ⟨arg, harg honly, Or.inr ⟨hname, ?_⟩⟩
      unfold JsonField.make at hmake
      split at hmake
      · cases hmake
      · cases hmake
        exact (Except.ok.inj h).symm
    · cases h

theorem output_of_builtin (h : call.builtin = .ok f) : f.output = call.output := by
  obtain ⟨arg, -, ⟨-, rfl⟩ | ⟨-, rfl⟩⟩ := builtin_eq_ok h <;> rfl

theorem apply_of_builtin (h : call.builtin = .ok f) (raw : Json) (row : Row) :
    f.apply raw row = .ok (fill (arrival? raw) [call] row) := by
  obtain ⟨arg, hargs, ⟨hname, rfl⟩ | ⟨hname, rfl⟩⟩ := builtin_eq_ok h
  · rw [fill_of_none (arrival_of_boundary hname)]
    rfl
  · rw [fill_of_some (arrival_of_jsonField hargs hname)]
    rfl

theorem finish_of_builtin (h : call.builtin = .ok f) (info : WindowInfo) (row : Row) :
    f.finish info (some row) = .ok (some (fill (closing? info) [call] row)) := by
  obtain ⟨arg, hargs, ⟨hname, rfl⟩ | ⟨hname, rfl⟩⟩ := builtin_eq_ok h
  · rw [fill_of_some (closing_of_boundary hargs hname)]
    rfl
  · rw [fill_of_none (closing_of_jsonField hname)]
    rfl

end FunctionCall

/-! ## Stages -/

namespace Enrichment

open FunctionCall

variable {r : Registry} {label : String} {written : List String} {calls calls' : List FunctionCall}
  {fs : List FieldFunction} {e : Enrichment}

theorem resolveAll_eq_ok_iff :
    resolveAll r label written calls = .ok fs ↔
      (calls.map (·.output)).Nodup ∧ (∀ call ∈ calls, call.output ∉ written) ∧
        (∀ call ∈ calls, ∃ f, r.resolve call = .ok f) ∧
        calls.filterMap (fun call => (r.resolve call).toOption) = fs := by
  induction calls generalizing written fs with
  | nil =>
    rw [resolveAll, Except.ok.injEq]
    simp
  | cons call calls ih =>
    rw [resolveAll, List.map_cons, List.nodup_cons, List.forall_mem_cons, List.forall_mem_cons]
    split
    · rename_i hmem
      exact iff_of_false nofun fun h => h.2.1.1 hmem
    · rename_i hnew
      constructor
      · intro h
        obtain ⟨f, hf, h⟩ := Outcome.bind_eq_ok.mp h
        obtain ⟨rest, hrest, h⟩ := Outcome.bind_eq_ok.mp h
        obtain ⟨hnodup, hapart, hall, rfl⟩ := ih.mp hrest
        refine ⟨⟨?_, hnodup⟩, ⟨hnew, fun c hc hw => ?_⟩, ⟨⟨f, hf⟩, hall⟩, ?_⟩
        · intro hmem
          obtain ⟨c, hc, heq⟩ := List.mem_map.mp hmem
          exact hapart c hc (heq ▸ List.mem_cons_self)
        · exact hapart c hc (List.mem_cons_of_mem _ hw)
        · rw [List.filterMap_cons, hf]
          exact Outcome.pure_eq_ok.mp h
      · rintro ⟨⟨hfirst, hnodup⟩, ⟨-, hapart⟩, ⟨⟨f, hf⟩, hall⟩, rfl⟩
        have hrest : resolveAll r label (call.output :: written) calls =
            .ok (calls.filterMap fun call => (r.resolve call).toOption) := by
          refine ih.mpr ⟨hnodup, fun c hc hw => ?_, hall, rfl⟩
          rcases List.mem_cons.mp hw with heq | hw
          · exact hfirst (List.mem_map.mpr ⟨c, hc, heq⟩)
          · exact hapart c hc hw
        rw [hf, hrest, List.filterMap_cons, hf]
        rfl

/-- A stage is made of calls that each have a function and write different columns. -/
theorem ofCalls_eq_ok_iff :
    ofCalls r label calls = .ok e ↔
      (calls.map (·.output)).Nodup ∧ (∀ call ∈ calls, ∃ f, r.resolve call = .ok f) ∧
        e.functions = calls.filterMap fun call => (r.resolve call).toOption := by
  obtain ⟨fs⟩ := e
  have hresolve : ofCalls r label calls = .ok ⟨fs⟩ ↔ resolveAll r label [] calls = .ok fs := by
    rw [ofCalls]
    cases resolveAll r label [] calls with
    | error cause => exact iff_of_false nofun nofun
    | ok found => simp [Except.map]
  rw [hresolve, resolveAll_eq_ok_iff]
  simp [eq_comm]

/-- The calls of a stage may stand in any order. -/
theorem ofCalls_perm (h : ofCalls r label calls = .ok e) (hperm : calls.Perm calls')
    (label' : String) : ∃ e', ofCalls r label' calls' = .ok e' := by
  obtain ⟨hnodup, hall, -⟩ := ofCalls_eq_ok_iff.mp h
  refine ⟨⟨calls'.filterMap fun call => (r.resolve call).toOption⟩, ofCalls_eq_ok_iff.mpr
    ⟨(hperm.map _).nodup_iff.mp hnodup, fun call hcall => hall call (hperm.mem_iff.mpr hcall), rfl⟩⟩

/-! ## Passes -/

/-- Steps that each write what their call has write what all calls have. -/
theorem runAll_of_steps {α : Type} (into : Row → α)
    {step : FieldFunction → α → Except FunctionError α} {valueOf : FunctionCall → Option Json}
    (hstep : ∀ call f row, call.builtin = .ok f →
      step f (into row) = .ok (into (fill valueOf [call] row)))
    (hcalls : ∀ call ∈ calls, ∃ f, call.builtin = .ok f) (row : Row) :
    runAll ((calls.filterMap fun call => call.builtin.toOption).map step) (into row) =
      ⟨into (fill valueOf calls row), none⟩ := by
  induction calls generalizing row with
  | nil => rfl
  | cons call calls ih =>
    rw [List.forall_mem_cons] at hcalls
    obtain ⟨⟨f, hf⟩, hcalls⟩ := hcalls
    have hfunctions : ((call :: calls).filterMap fun call => call.builtin.toOption) =
        f :: calls.filterMap fun call => call.builtin.toOption :=
      List.filterMap_cons_some (congrArg Except.toOption hf)
    rw [hfunctions, List.map_cons, runAll, hstep call f row hf, fill_cons call calls]
    exact ih hcalls _

section Builtin

variable (h : ofCalls Registry.empty label calls = .ok e)

include h

theorem outputs_of_calls : e.outputs = calls.map (·.output) := by
  obtain ⟨-, hall, hfunctions⟩ := ofCalls_eq_ok_iff.mp h
  rw [outputs, hfunctions, List.map_filterMap, ← List.filterMap_eq_map]
  apply List.filterMap_congr
  intro call hcall
  obtain ⟨f, hf⟩ := hall call hcall
  rw [hf]
  exact congrArg some (output_of_builtin hf)

theorem applyAll_of_calls (raw : Json) (row : Row) :
    e.applyAll raw row = ⟨fill (arrival? raw) calls row, none⟩ := by
  obtain ⟨-, hall, hfunctions⟩ := ofCalls_eq_ok_iff.mp h
  rw [applyAll, hfunctions]
  exact runAll_of_steps id (fun _ _ row hf => apply_of_builtin hf raw row) hall row

theorem finishAll_of_calls (info : WindowInfo) (row : Row) :
    e.finishAll info (some row) = ⟨some (fill (closing? info) calls row), none⟩ := by
  obtain ⟨-, hall, hfunctions⟩ := ofCalls_eq_ok_iff.mp h
  rw [finishAll, hfunctions]
  exact runAll_of_steps some (fun _ _ row hf => finish_of_builtin hf info row) hall row

/-- A stage of built-in functions runs both passes over every row, whatever the order of its calls.
The row behind them has under each output the part of the arriving row, or of what is known of the
window, that the call asks for, and under all other keys what it had before. -/
theorem passes_perm (hperm : calls.Perm calls') (label' : String) :
    ∃ e', ofCalls Registry.empty label' calls' = .ok e' ∧
      ∀ raw row info, ∃ between out,
        e.applyAll raw row = ⟨between, none⟩ ∧
        e.finishAll info (some between) = ⟨some out, none⟩ ∧
        e'.applyAll raw row = ⟨between, none⟩ ∧
        e'.finishAll info (some between) = ⟨some out, none⟩ ∧
        (∀ key ∉ e.outputs, out.get? key = row.get? key) ∧
        ∀ call ∈ calls, ∃ arg, call.args = [arg] ∧
          (call.function.toLower = JsonField.name ∧
              out.get? call.output =
                some ((JsonField.extract (JsonField.steps arg) raw).getD .null) ∨
            call.function.toLower = WindowBoundary.name ∧
              out.get? call.output = some ((info.get? arg).getD .null)) := by
  obtain ⟨hnodup, hall, -⟩ := ofCalls_eq_ok_iff.mp h
  obtain ⟨e', h'⟩ := ofCalls_perm h hperm label'
  refine ⟨e', h', fun raw row info => ⟨fill (arrival? raw) calls row,
    fill (closing? info) calls (fill (arrival? raw) calls row), applyAll_of_calls h raw row,
    finishAll_of_calls h info _, ?_, ?_, fun key hkey => ?_, fun call hcall => ?_⟩⟩
  · rw [applyAll_of_calls h', fill_perm hnodup hperm]
  · rw [finishAll_of_calls h', fill_perm hnodup hperm, fill_perm hnodup hperm]
  · rw [outputs_of_calls h] at hkey
    have hnone {valueOf : FunctionCall → Option Json} :
        ∀ call ∈ calls, call.output = key → valueOf call = none :=
      fun call hcall houtput => absurd (List.mem_map.mpr ⟨call, hcall, houtput⟩) hkey
    rw [get?_fill_of_none hnone, get?_fill_of_none hnone]
  · obtain ⟨f, hf⟩ := hall call hcall
    obtain ⟨arg, hargs, ⟨hname, -⟩ | ⟨hname, -⟩⟩ := builtin_eq_ok hf
    · exact ⟨arg, hargs, Or.inr ⟨hname,
        get?_fill_of_some hnodup hcall (closing_of_boundary hargs hname)⟩⟩
    · -- The second pass does not write the column, as no other call has this output.
      have hkept : ∀ other ∈ calls, other.output = call.output → other.closing? info = none := by
        intro other hother houtput
        rw [List.inj_on_of_nodup_map hnodup hother hcall houtput, closing_of_jsonField hname]
      refine ⟨arg, hargs, Or.inl ⟨hname, ?_⟩⟩
      rw [get?_fill_of_none hkept]
      exact get?_fill_of_some hnodup hcall (arrival_of_jsonField hargs hname)

end Builtin

def userId : FunctionCall := ⟨"JSON_Field", ["user/id"], "user_id"⟩

def windowStart : FunctionCall := ⟨"window_boundary_time", ["window_start"], "start"⟩

/-- A part of the row that arrives, and a bound of the window that is not known, in both orders. -/
theorem passes_perm_userId :
    ∃ e e', ofCalls Registry.empty "root_group_1" [userId, windowStart] = .ok e ∧
      ofCalls Registry.empty "root_enrich_1" [windowStart, userId] = .ok e' ∧
      ∀ row, ∃ between out,
        e.applyAll (.object [("user", .object [("id", .int 7)])]) row = ⟨between, none⟩ ∧
        e.finishAll Dict.empty (some between) = ⟨some out, none⟩ ∧
        e'.applyAll (.object [("user", .object [("id", .int 7)])]) row = ⟨between, none⟩ ∧
        e'.finishAll Dict.empty (some between) = ⟨some out, none⟩ ∧
        out.get? "user_id" = some (.int 7) ∧ out.get? "start" = some .null := by
  have h : ofCalls Registry.empty "root_group_1" [userId, windowStart] =
      .ok ⟨[JsonField.toFunction ⟨["user", "id"], "user_id"⟩,
        WindowBoundary.toFunction ⟨"window_start", "start"⟩]⟩ := by
    with_unfolding_all rfl
  obtain ⟨e', h', hruns⟩ := passes_perm h (List.Perm.swap windowStart userId []) "root_enrich_1"
  refine ⟨_, e', h, h', fun row => ?_⟩
  obtain ⟨between, out, harrive, hclose, harrive', hclose', -, hvalues⟩ :=
    hruns (.object [("user", .object [("id", .int 7)])]) row Dict.empty
  refine ⟨between, out, harrive, hclose, harrive', hclose', ?_, ?_⟩
  · obtain ⟨_, ⟨⟩, ⟨-, hvalue⟩ | ⟨hname, -⟩⟩ := hvalues userId (by simp)
    · exact hvalue
    · exact absurd hname (by decide +kernel)
  · obtain ⟨_, ⟨⟩, ⟨hname, -⟩ | ⟨-, hvalue⟩⟩ := hvalues windowStart (by simp)
    · exact absurd hname (by decide +kernel)
    · exact hvalue

end Enrichment

end JoinPlan
