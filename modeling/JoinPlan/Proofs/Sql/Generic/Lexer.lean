import JoinPlan.Proofs.Decimal.Digits
import JoinPlan.Proofs.Sql.Writing
import JoinPlan.Sql.Generic.Lexer

/-!
# Texts of single tokens

A text is split into tokens part by part: what a part is split into does not depend on what stands
before it, and only on the next character behind it.
-/

namespace JoinPlan.Sql.Generic

/-! ## Parts of a text -/

/-- Whether characters are split into tokens in front of any text that may follow them. -/
def Splits (follows : List Char → Prop) (cs : List Char) (ts : List Token) : Prop :=
  ∀ rest n, follows rest → (cs ++ rest).length ≤ n →
    ∃ m, rest.length ≤ m ∧ lexWithin n (cs ++ rest) = (ts ++ ·) <$> lexWithin m rest

namespace Splits

variable {follows later : List Char → Prop} {cs ds : List Char} {ts us : List Token}

theorem append (h : Splits follows cs ts) (h' : Splits later ds us)
    (hfollows : ∀ rest, later rest → follows (ds ++ rest)) :
    Splits later (cs ++ ds) (ts ++ us) := by
  intro rest n hrest hn
  rw [List.append_assoc] at hn
  obtain ⟨m, hm, hfirst⟩ := h (ds ++ rest) n (hfollows rest hrest) hn
  obtain ⟨k, hk, hsecond⟩ := h' rest m hrest hm
  refine ⟨k, hk, ?_⟩
  rw [List.append_assoc, hfirst, hsecond]
  simp

theorem mono (h : Splits follows cs ts) (himp : ∀ rest, later rest → follows rest) :
    Splits later cs ts :=
  fun rest n hrest hn => h rest n (himp rest hrest) hn

theorem of_readToken {c : Char} {t : Option Token}
    (h : ∀ rest, follows rest → readToken c (cs ++ rest) = .ok (t, rest)) :
    Splits follows (c :: cs) t.toList := by
  intro rest n hrest hn
  cases n with
  | zero => simp at hn
  | succ n =>
    refine ⟨n, by simp at hn; omega, ?_⟩
    rw [List.cons_append, lexWithin, h rest hrest]
    rfl

/-- A text is split as a whole when nothing follows it. -/
theorem lex_eq_ok {s : String} (h : Splits follows s.toList ts) (hend : follows []) :
    lex s = .ok ts := by
  obtain ⟨m, -, hlex⟩ := h [] s.toList.length hend (by simp)
  rw [List.append_nil] at hlex
  rw [lex, hlex]
  have hnothing : lexWithin m [] = .ok [] := by cases m <;> rfl
  rw [hnothing]
  exact congrArg Except.ok (List.append_nil ts)

end Splits

/-- Any text may follow. -/
def Anything (_ : List Char) : Prop := True

/-- A blank, a closing parenthesis or a comma follows, if anything does. -/
def Separated (rest : List Char) : Prop :=
  ∀ c ∈ rest.head?, c = ' ' ∨ c = ')' ∨ c = ','

theorem Separated.cases {rest : List Char} (h : Separated rest) :
    rest = [] ∨ ∃ cs, rest = ' ' :: cs ∨ rest = ')' :: cs ∨ rest = ',' :: cs := by
  cases rest with
  | nil => exact Or.inl rfl
  | cons c cs =>
    rcases h c rfl with rfl | rfl | rfl
    · exact Or.inr ⟨cs, Or.inl rfl⟩
    · exact Or.inr ⟨cs, Or.inr (Or.inl rfl)⟩
    · exact Or.inr ⟨cs, Or.inr (Or.inr rfl)⟩

/-! ## Blanks and signs -/

theorem splits_blank : Splits Anything [' '] [] :=
  .of_readToken (t := none) fun rest _ => by
    rw [readToken.eq_def, if_pos (by simp [Text.isBlank, Text.Ranges.holds, Text.blankRanges])]
    rfl

theorem splits_leftParen : Splits Anything ['('] [.symbol .leftParen] :=
  .of_readToken (t := some _) fun rest _ => by
    rw [readToken.eq_def, if_neg (by simp [Text.isBlank_of_graphic])]
    rfl

theorem splits_rightParen : Splits Anything [')'] [.symbol .rightParen] :=
  .of_readToken (t := some _) fun rest _ => by
    rw [readToken.eq_def, if_neg (by simp [Text.isBlank_of_graphic])]
    rfl

theorem splits_comma : Splits Anything [','] [.symbol .comma] :=
  .of_readToken (t := some _) fun rest _ => by
    rw [readToken.eq_def, if_neg (by simp [Text.isBlank_of_graphic])]
    rfl

/-! ## Words -/

theorem isNameStart_of_isPlainStart {c : Char} (h : isPlainStart c = true) :
    isNameStart c = true := by
  unfold isPlainStart at h
  rcases Bool.or_eq_true_iff.mp h with h | h
  · simp [isNameStart, Text.isLetter_of_isAlpha h]
  · simp [isNameStart, h]

theorem isNamePart_of_isPlainPart {c : Char} (h : isPlainPart c = true) : isNamePart c = true := by
  unfold isPlainPart at h
  rcases Bool.or_eq_true_iff.mp h with h | h
  · simp [isNamePart, isNameStart_of_isPlainStart h]
  · simp [isNamePart, h]

theorem toNat_of_isPlainStart {c : Char} (h : isPlainStart c = true) :
    0x40 < c.toNat ∧ c.toNat < 0x7B := by
  rcases Bool.or_eq_true_iff.mp h with h | h
  · have hbounds := Text.toNat_of_isAlpha h
    omega
  · obtain rfl : c = '_' := by simpa using h
    decide

theorem isDigit_of_isPlainStart {c : Char} (h : isPlainStart c = true) : c.isDigit = false := by
  cases hdigit : c.isDigit with
  | false => rfl
  | true =>
    have hstart := toNat_of_isPlainStart h
    have hbounds := Decimal.toNat_of_isDigit hdigit
    omega

/-- The word before ends here. -/
def EndsWord (rest : List Char) : Prop :=
  ∀ c ∈ rest.head?, isNamePart c = false ∧ c ≠ '\''

theorem EndsWord.of_separated {rest : List Char} (h : Separated rest) : EndsWord rest := by
  intro c hc
  rcases h c hc with rfl | rfl | rfl <;> exact ⟨rfl, by decide⟩

/-- A blank follows. -/
def Blank (rest : List Char) : Prop :=
  ∃ cs, rest = ' ' :: cs

theorem Blank.separated {rest : List Char} (h : Blank rest) : Separated rest := by
  obtain ⟨cs, rfl⟩ := h
  rintro c ⟨⟩
  exact Or.inl rfl

theorem takeWhile_append_eq {p : Char → Bool} {cs rest : List Char} (hcs : ∀ c ∈ cs, p c = true)
    (hrest : ∀ c ∈ rest.head?, p c = false) :
    (cs ++ rest).takeWhile p = cs ∧ (cs ++ rest).dropWhile p = rest := by
  rw [List.takeWhile_append_of_pos hcs, List.dropWhile_append_of_pos hcs]
  cases rest with
  | nil => simp
  | cons c rest => simp [hrest c rfl]

theorem splits_word {word : String} (h : isPlainWord word.toList = true) :
    Splits EndsWord word.toList [.word word none] := by
  obtain ⟨c, cs, hword, hc, hcs⟩ := eq_cons_of_isPlainWord h
  obtain rfl : String.ofList (c :: cs) = word := by rw [← hword, String.ofList_toList]
  rw [hword]
  refine .of_readToken (t := some _) fun rest hrest => ?_
  obtain ⟨htake, hdrop⟩ := takeWhile_append_eq
    (fun d hd => isNamePart_of_isPlainPart (hcs d hd)) (fun d hd => (hrest d hd).1)
  have hquote : ∀ after, cs ++ rest ≠ '\'' :: after := by
    intro after h
    cases cs with
    | nil => exact (hrest '\'' (by rw [List.nil_append] at h; rw [h]; rfl)).2 rfl
    | cons d cs =>
      cases (List.cons.inj h).1
      exact absurd (hcs '\'' List.mem_cons_self) (by decide)
  have hbounds := toNat_of_isPlainStart hc
  have hblank : Text.isBlank c = false := Text.isBlank_of_graphic (by omega) (by omega)
  have hspecial : ∀ d ∈ ['\'', '"', '`', '-', '/', '?', '$', '#', '@', '.'], c ≠ d := by
    rintro d hd rfl
    revert hc
    simp only [List.mem_cons, List.not_mem_nil, or_false] at hd
    rcases hd with rfl | rfl | rfl | rfl | rfl | rfl | rfl | rfl | rfl | rfl <;> decide
  have hstart := isNameStart_of_isPlainStart hc
  have hdigit := isDigit_of_isPlainStart hc
  rw [readToken.eq_def, if_neg (by simp [hblank])]
  split
  all_goals simp_all [readWord]

/-! ## Numbers -/

/-- The point between the parts of a name. -/
theorem splits_period : Splits (fun rest => ∀ c ∈ rest.head?, c.isDigit = false) ['.']
    [.symbol .period] :=
  .of_readToken (t := some _) fun rest hrest => by
    have htake : rest.takeWhile Char.isDigit = [] := by
      cases rest with
      | nil => rfl
      | cons c cs => rw [List.takeWhile_cons_of_neg (by simp [hrest c rfl])]
    rw [readToken.eq_def, if_neg (by simp [Text.isBlank_of_graphic])]
    simp [readNumber, htake]

theorem splits_number {d : Char} {ds : List Char} (h : ∀ c ∈ d :: ds, c.isDigit = true) :
    Splits Separated (d :: ds) [.number (String.ofList (d :: ds)) false] := by
  refine .of_readToken (t := some _) fun rest hrest => ?_
  have hend : ∀ c ∈ rest.head?, c.isDigit = false := fun c hc => by
    rcases hrest c hc with rfl | rfl | rfl <;> rfl
  have hbounds := Decimal.toNat_of_isDigit (h d List.mem_cons_self)
  have hblank : Text.isBlank d = false := Text.isBlank_of_graphic (by omega) (by omega)
  have hnumber : readNumber (d :: (ds ++ rest)) =
      (.number (String.ofList (d :: ds)) false, rest) := by
    obtain ⟨htake, hdrop⟩ := takeWhile_append_eq h hend
    rw [List.cons_append] at htake hdrop
    rw [readNumber, htake, hdrop]
    rcases hrest.cases with rfl | ⟨cs, rfl | rfl | rfl⟩
    all_goals simp [readExponentPart]
  have hspecial : ∀ c ∈ ['n', 'N', 'x', 'X', '\'', '"', '`', '-', '/', '?', '$', '#', '@'],
      d ≠ c := by
    rintro c hc rfl
    revert hbounds
    simp only [List.mem_cons, List.not_mem_nil, or_false] at hc
    rcases hc with rfl | rfl | rfl | rfl | rfl | rfl | rfl | rfl | rfl | rfl | rfl | rfl | rfl <;>
      decide
  have hdigit := h d List.mem_cons_self
  rw [readToken.eq_def, if_neg (by simp [hblank])]
  split
  all_goals simp_all

/-- The sign of a number. -/
theorem splits_minus : Splits (fun rest => ∃ c cs, rest = c :: cs ∧ c.isDigit = true) ['-']
    [.symbol .minus] :=
  .of_readToken (t := some _) fun rest hrest => by
    obtain ⟨c, cs, rfl, hc⟩ := hrest
    have hbounds := Decimal.toNat_of_isDigit hc
    have hminus : c ≠ '-' := by rintro rfl; revert hbounds; decide
    have harrow : c ≠ '>' := by rintro rfl; revert hbounds; decide
    have hletter : Text.isLetter '-' = false := rfl
    rw [readToken.eq_def, if_neg (by simp [Text.isBlank_of_graphic])]
    simp [hminus, harrow, hletter, isNameStart, readSymbol]

/-! ## Texts -/

theorem readQuoted_append {quote : Char} {cs rest : List Char} (hcs : quote ∉ cs)
    (hrest : rest.head? ≠ some quote) :
    readQuoted quote (cs ++ quote :: rest) = some (cs, rest) := by
  induction cs with
  | nil =>
    cases rest with
    | nil => simp [readQuoted]
    | cons c rest =>
      have hc : c ≠ quote := fun h => hrest (congrArg some h)
      simp [readQuoted, hc]
  | cons c cs ih =>
    have hc := List.ne_of_not_mem_cons hcs
    have hcs := List.not_mem_of_not_mem_cons hcs
    obtain ⟨d, ds, hd⟩ : ∃ d ds, cs ++ quote :: rest = d :: ds := by
      cases cs <;> simp
    have hrec := ih hcs
    rw [hd] at hrec
    rw [List.cons_append, hd, readQuoted, if_neg (Ne.symm hc), hrec]
    rfl

theorem splits_text {cs : List Char} (h : '\'' ∉ cs) :
    Splits Separated ('\'' :: (cs ++ ['\''])) [.text (String.ofList cs)] := by
  refine .of_readToken (t := some _) fun rest hrest => ?_
  have hhead : rest.head? ≠ some '\'' := fun hquote => by
    rcases hrest '\'' hquote with h | h | h <;> cases h
  rw [readToken.eq_def, if_neg (by simp [Text.isBlank_of_graphic])]
  simp [readQuotedAs, readQuoted_append h hhead]

/-! ## Operators -/

/-- The token of an operator that conditions have. -/
def operatorToken : BinaryOp → Token
  | .or => .word "OR" none
  | .and => .word "AND" none
  | .eq => .symbol .eq
  | .notEq => .symbol .notEq
  | .lt => .symbol .lt
  | .ltEq => .symbol .ltEq
  | .gt => .symbol .gt
  | .gtEq => .symbol .gtEq
  | .other text => .symbol (.other text)

/-- An operator ends before a blank. -/
theorem splits_operator {op : BinaryOp} {strength : Nat} (hop : op.strength? = some strength) :
    Splits Blank op.symbol.toList [operatorToken op] := by
  cases op with
  | or | and => exact (splits_word rfl).mono fun _ h => .of_separated h.separated
  | other => cases hop
  | _ =>
    refine .of_readToken (t := some _) fun rest hrest => ?_
    obtain ⟨cs, rfl⟩ := hrest
    rw [readToken.eq_def,
      if_neg (Bool.eq_false_iff.mp (Text.isBlank_of_graphic (by decide) (by decide)))]
    rfl

end JoinPlan.Sql.Generic
