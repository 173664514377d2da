import JoinPlan.Proofs.Join.Leaves

/-!
# Columns as text

Plans pass columns on as text and read them again. A text is read as a column with that text unless it
starts with a dot, and a column is read from its text unless a dot in its first part hides where that
part ends.
-/

namespace JoinPlan

/-! ## Dots in front of texts -/

theorem withoutDot_eq_self_iff {name : String} :
    withoutDot name = name ↔ name.toList.head? ≠ some '.' := by
  unfold withoutDot
  constructor
  · intro h hhead
    rw [if_pos hhead] at h
    obtain ⟨rest, hname⟩ := List.head?_eq_some_iff.mp hhead
    have hlist := congrArg String.toList h
    rw [String.toList_ofList, hname] at hlist
    exact List.cons_ne_self '.' rest hlist.symm
  · exact fun h => if_neg h

theorem append_dot_append_ne (before name : String) : before ++ "." ++ name ≠ name := by
  intro h
  have hlength := congrArg String.length h
  rw [String.length_append, String.length_append] at hlength
  have hdot : ".".length = 1 := rfl
  omega

namespace Column

/-! ## Columns that can be made -/

/-- Whether a column is one that is made: of a name, of a qualifier and a name, or from a text. -/
inductive Made : Column → Prop
  | bare (name : String) : Made (.bare name)
  | qualified (qualifier name : String) : Made (.qualified qualifier name)
  | parse (raw : String) : Made (.parse raw)

theorem qualifier_qualified_ne (qualifier name : String) :
    (Column.qualified qualifier name).qualifier ≠ some "" := by
  unfold Column.qualified
  split
  · nofun
  · rename_i hne
    exact fun h => hne (Option.some.inj h)

theorem Made.qualifier_ne {c : Column} (h : c.Made) : c.qualifier ≠ some "" := by
  cases h with
  | bare name => nofun
  | qualified qualifier name => exact qualifier_qualified_ne qualifier name
  | parse raw =>
    rcases dotFree_or_qualified raw with h | ⟨qualifier, name, h, rfl⟩
    · rw [parse_of_dotFree h]
      nofun
    · rw [parse_append h]
      exact qualifier_qualified_ne qualifier name

/-! ## Reading the text of a column -/

/-- What stands behind the first dot of a qualifier is read as a part of the name. -/
theorem name_parse_append {part : String} (h : '.' ∈ part.toList) (name : String) :
    ∃ behind, (Column.parse (part ++ "." ++ name)).name = behind ++ "." ++ name := by
  rcases dotFree_or_qualified part with hfree | ⟨first, rest, hfirst, rfl⟩
  · exact absurd h hfree
  · refine ⟨rest, ?_⟩
    have htext : first ++ "." ++ rest ++ "." ++ name = first ++ "." ++ (rest ++ "." ++ name) := by
      simp only [String.append_assoc]
    rw [htext, parse_append hfirst]
    rfl

theorem parse_text_iff {c : Column} (h : c.Made) :
    parse c.text = c ↔
      (∀ q ∈ c.qualifier, '.' ∉ q.toList) ∧ (c.qualifier = none → '.' ∉ c.name.toList) := by
  obtain ⟨qualifier, name⟩ := c
  cases qualifier with
  | none =>
    have htext : parse (text ⟨none, name⟩) = ⟨none, name⟩ ↔ '.' ∉ name.toList := by
      refine ⟨fun hparse hdot => ?_, parse_of_dotFree⟩
      rcases dotFree_or_qualified name with hfree | ⟨first, rest, hfirst, rfl⟩
      · exact hfree hdot
      · rw [text, parse_append hfirst] at hparse
        exact append_dot_append_ne first rest (congrArg Column.name hparse).symm
    simpa using htext
  | some q =>
    have hne : q ≠ "" := fun hq => h.qualifier_ne (congrArg some hq)
    have htext : parse (text ⟨some q, name⟩) = ⟨some q, name⟩ ↔ '.' ∉ q.toList := by
      refine ⟨fun hparse hdot => ?_, fun hdot => ?_⟩
      · obtain ⟨behind, hname⟩ := name_parse_append hdot name
        rw [text] at hparse
        rw [hparse] at hname
        exact append_dot_append_ne behind name hname.symm
      · rw [text, parse_append hdot, Column.qualified, if_neg hne]
    simpa using htext

/-- A text is the text of the column that is read from it just when it does not start with a dot. A
column is read from its text just when there is no dot in its qualifier or, where it has none, in its
name. -/
theorem text_parse_and_parse_text :
    (∀ raw, (parse raw).text = raw ↔ raw.toList.head? ≠ some '.') ∧
      ∀ c : Column, c.Made →
        (parse c.text = c ↔
          (∀ q ∈ c.qualifier, '.' ∉ q.toList) ∧ (c.qualifier = none → '.' ∉ c.name.toList)) :=
  ⟨fun raw => by rw [text_parse_eq, withoutDot_eq_self_iff], fun _ => parse_text_iff⟩

/-- A dot in a name behind a qualifier, and a qualifier without a name. -/
theorem text_parse_and_parse_text_orders :
    (parse "orders.").text = "orders." ∧ (Column.qualified "o" "total.net").Made ∧
      parse (Column.qualified "o" "total.net").text = .qualified "o" "total.net" :=
  ⟨(text_parse_and_parse_text.1 "orders.").mpr (by decide), .qualified "o" "total.net",
    (text_parse_and_parse_text.2 _ (.qualified "o" "total.net")).mpr (by decide)⟩

end Column

end JoinPlan
