import TapeMachine.Proofs.SourceRuns

/-! The tokens of a text as they are spelled: one after the other, with nothing but white space
around them. The lexer finds the tokens that a text spells and no others, so a text that is put
together from two has the tokens of both, unless a word goes on from one into the other.
-/

namespace TapeMachine.Source

-----------------------------------------------------------------------------------------
-- Spelling
-----------------------------------------------------------------------------------------

/-- A token as it stands in a source text. -/
def Token.text : Token → List Char
  | .op instruction => [instruction.symbol]
  | .comment word => word.toList

/-- A token can stand before a text: an instruction always can, a word that is as long as can be. -/
def Token.StandsBefore (rest : List Char) : Token → Prop
  | .op _ => True
  | .comment word =>
      word.toList ≠ []
      ∧ (∀ c ∈ word.toList, Lexer.isComment c = true)
      ∧ ∀ c ∈ rest.head?, Lexer.isComment c = false

/-- A text spells tokens that stand in it one after the other, with white space before, between and
behind them.
-/
inductive Spells : List Char → List Token → Prop
  | blank {spaces : List Char} (blank : ∀ c ∈ spaces, Text.isSpace c = true)
    : Spells spaces []
  | token {spaces rest : List Char} {token : Token} {tokens : List Token}
      (blank : ∀ c ∈ spaces, Text.isSpace c = true) (stands : token.StandsBefore rest)
      (later : Spells rest tokens)
    : Spells (spaces ++ (token.text ++ rest)) (token :: tokens)

theorem Spells.skip {spaces text : List Char} {tokens : List Token} (spells : Spells text tokens)
    (blank : ∀ c ∈ spaces, Text.isSpace c = true)
    : Spells (spaces ++ text) tokens := by
  cases spells with
  | blank alsoBlank =>
      exact .blank (fun c member => (List.mem_append.mp member).elim (blank c) (alsoBlank c))
  | token alsoBlank stands later =>
      rw [← List.append_assoc]
      exact .token (fun c member => (List.mem_append.mp member).elim (blank c) (alsoBlank c))
        stands later

theorem Lexer.BreaksBetween.of_append {before text rest : List Char}
    (breaks : BreaksBetween (before ++ text) rest)
    : BreaksBetween text rest := by
  intro last isLast
  apply breaks last
  rw [List.getLast?_append, Option.mem_def.mp isLast, Option.some_or]
  rfl

theorem Token.StandsBefore.alone {token : Token} {rest : List Char}
    (stands : token.StandsBefore rest)
    : token.StandsBefore [] := by
  cases token with
  | op instruction => trivial
  | comment word => exact ⟨stands.1, stands.2.1, nofun⟩

/-- No word goes on from a token into what it stands before. -/
theorem Token.StandsBefore.breaks {token : Token} {rest : List Char}
    (stands : token.StandsBefore rest) (spaces : List Char)
    : Lexer.BreaksBetween (spaces ++ token.text) rest := by
  cases token with
  | op instruction =>
      intro last isLast first _ comment
      rw [Token.text, List.getLast?_concat] at isLast
      obtain rfl := Option.some.inj isLast
      rw [isComment_of_ofChar? (Opcode.ofChar?_symbol instruction)] at comment
      cases comment
  | comment word =>
      intro _ _ first isFirst _
      exact stands.2.2 first isFirst

/-- A token that ends a text stands before whatever does not go on with it. -/
theorem Token.StandsBefore.append {token : Token} {spaces rest more : List Char}
    (stands : token.StandsBefore rest)
    (breaks : Lexer.BreaksBetween (spaces ++ (token.text ++ rest)) more)
    : token.StandsBefore (rest ++ more) := by
  cases token with
  | op instruction => trivial
  | comment word =>
      obtain ⟨nonempty, comment, right⟩ := stands
      refine ⟨nonempty, comment, ?_⟩
      cases rest with
      | cons c rest => exact right
      | nil =>
          intro first isFirst
          rw [List.append_nil] at breaks
          have isLast := List.getLast?_eq_some_getLast nonempty
          exact breaks.of_append _ isLast first isFirst (comment _ (List.getLast_mem nonempty))

/-- Two texts spell the tokens of both if no word goes on from one into the other, by induction on
the tokens of the first.
-/
theorem Spells.append {text more : List Char} {tokens others : List Token}
    (first : Spells text tokens) (second : Spells more others)
    (breaks : Lexer.BreaksBetween text more)
    : Spells (text ++ more) (tokens ++ others) := by
  induction first with
  | blank blank => exact second.skip blank
  | @token spaces rest token tokens blank stands later ih =>
      have apart : Lexer.BreaksBetween rest more := breaks.of_append.of_append
      rw [List.append_assoc, List.append_assoc, List.cons_append]
      exact .token blank (stands.append breaks) (ih apart)

-----------------------------------------------------------------------------------------
-- The next token
-----------------------------------------------------------------------------------------

namespace Lexer

/-- What the next token can be: none in white space, or the first one that is spelled. -/
inductive Gives (lexer : Lexer) : Option Token × Lexer → Prop where
  | nothing (blank : ∀ c ∈ lexer.rest, Text.isSpace c = true)
    : lexer.Gives (none, ⟨lexer.position.after lexer.rest, []⟩)
  | token {spaces rest : List Char} {token : Token}
      (split : lexer.rest = spaces ++ (token.text ++ rest))
      (blank : ∀ c ∈ spaces, Text.isSpace c = true) (stands : token.StandsBefore rest)
    : lexer.Gives (some token, ⟨lexer.position.after (spaces ++ token.text), rest⟩)

theorem gives_next (lexer : Lexer)
    : lexer.Gives lexer.next := by
  obtain ⟨spaces, blank, split, skipped, takes⟩ := lexer.takes_skipSpace
  unfold next
  generalize lexer.skipSpace.take = taken at takes
  cases takes with
  | nothing ended =>
      rw [ended, List.append_nil] at split
      have finished : lexer.skipSpace = ⟨lexer.position.after lexer.rest, []⟩ := by
        rw [split, ← skipped, ← ended]
      rw [finished]
      exact .nothing (split ▸ blank)
  | @op c instruction rest first reads =>
      obtain rfl := Opcode.symbol_of_ofChar? reads
      rw [first] at split
      rw [skipped, ← Position.after_append]
      exact .token split blank trivial
  | @comment word rest first nonempty comment right =>
      have text : (Token.comment (String.ofList word)).text = word := String.toList_ofList
      have stands : (Token.comment (String.ofList word)).StandsBefore rest := by
        rw [Token.StandsBefore, String.toList_ofList]
        exact ⟨nonempty, comment, right⟩
      have given : lexer.Gives (some (.comment (String.ofList word)),
          ⟨lexer.position.after (spaces ++ (Token.comment (String.ofList word)).text), rest⟩) :=
        .token (by rw [text, ← first]; exact split) blank stands
      rwa [text, Position.after_append, ← skipped] at given

theorem isSpace_of_isComment {c : Char} (comment : isComment c = true)
    : Text.isSpace c = false := by
  simpa using (Bool.and_eq_true_iff.mp comment).1

/-- No token begins with white space. -/
theorem isSpace_head_text {token : Token} {rest : List Char} (stands : token.StandsBefore rest)
    : ∀ c ∈ (token.text ++ rest).head?, Text.isSpace c = false := by
  cases token with
  | op instruction =>
      rintro c ⟨⟩
      cases instruction <;> decide
  | comment word =>
      obtain ⟨nonempty, comment, _⟩ := stands
      obtain ⟨first, tail, split⟩ := List.exists_cons_of_ne_nil nonempty
      rw [Token.text, split]
      rintro c ⟨⟩
      exact isSpace_of_isComment (comment first (split ▸ List.mem_cons_self))

/-- A token is taken from a text that it stands before. -/
theorem take_text (position : Position) {token : Token} {rest : List Char}
    (stands : token.StandsBefore rest)
    : (⟨position, token.text ++ rest⟩ : Lexer).take
      = (some token, ⟨position.after token.text, rest⟩) := by
  cases token with
  | op instruction =>
      simp only [Token.text, List.singleton_append, take, Opcode.ofChar?_symbol]
      rfl
  | comment word =>
      obtain ⟨nonempty, comment, right⟩ := stands
      obtain ⟨c, tail, split⟩ := List.exists_cons_of_ne_nil nonempty
      have whole : String.ofList (c :: tail) = word := by rw [← split, String.ofList_toList]
      rw [split] at comment
      obtain ⟨taken, left⟩ :=
        Text.span_append (fun other member => comment other (List.mem_cons_of_mem c member)) right
      simp only [Token.text, split, List.cons_append, take, dropWhile, taken, left, whole,
        ofChar?_of_isComment (comment c List.mem_cons_self)]
      rfl

/-- The first token that is spelled is the next one. -/
theorem next_of_spelled (position : Position) {spaces rest : List Char} {token : Token}
    (blank : ∀ c ∈ spaces, Text.isSpace c = true) (stands : token.StandsBefore rest)
    : (⟨position, spaces ++ (token.text ++ rest)⟩ : Lexer).next
      = (some token, ⟨position.after (spaces ++ token.text), rest⟩) := by
  obtain ⟨skipped, left⟩ := Text.span_append blank (isSpace_head_text stands)
  rw [next, skipSpace, dropWhile, skipped, left, take_text _ stands, Position.after_append]

theorem next_of_blank (position : Position) {spaces : List Char}
    (blank : ∀ c ∈ spaces, Text.isSpace c = true)
    : (⟨position, spaces⟩ : Lexer).next = (none, ⟨position.after spaces, []⟩) := by
  obtain ⟨skipped, left⟩ := @Text.span_append _ _ _ [] blank nofun
  rw [List.append_nil] at skipped left
  rw [next, skipSpace, dropWhile, skipped, left]
  rfl

-----------------------------------------------------------------------------------------
-- All tokens
-----------------------------------------------------------------------------------------

/-- What holds at the end of every text, and before a token if it holds behind it, holds of every
lexer.
-/
theorem next_induction {motive : Lexer → Prop}
    (ended : ∀ lexer later, lexer.next = (none, later) → motive lexer)
    (took : ∀ lexer token later, lexer.next = (some token, later) → motive later → motive lexer)
    (lexer : Lexer)
    : motive lexer :=
  locateAll.induct (fun lexer _ => motive lexer) (fun lexer _ later => ended lexer later)
    (fun lexer _ token later => took lexer token later) lexer []

/-- The tokens that are left, each with its place in the whole text. -/
def located (lexer : Lexer) : List Located :=
  (lexer.locateAll []).1

theorem locateAll_of_none {lexer later : Lexer} (ended : lexer.next = (none, later))
    (found : List Located)
    : lexer.locateAll found = (found.reverse, later) := by
  rw [locateAll]
  split <;> rename_i taken <;> rw [← next, ended] at taken <;> cases taken
  rfl

theorem locateAll_of_some {lexer later : Lexer} {token : Token}
    (took : lexer.next = (some token, later)) (found : List Located)
    : lexer.locateAll found
      = later.locateAll (⟨lexer.skipSpace.position, token⟩ :: found) := by
  rw [locateAll]
  split <;> rename_i taken <;> rw [← next, took] at taken <;> cases taken
  rfl

/-- The tokens that are left come behind those found before, and the lexer ends at the end of the
text.
-/
theorem locateAll_eq (lexer : Lexer) (found : List Located)
    : lexer.locateAll found
      = (found.reverse ++ lexer.located, ⟨lexer.position.after lexer.rest, []⟩) := by
  induction lexer using next_induction generalizing found with
  | ended lexer later nothing =>
      have given := lexer.gives_next
      rw [nothing] at given
      cases given
      rw [located, locateAll_of_none nothing, locateAll_of_none nothing]
      simp
  | took lexer token later taken ih =>
      have given := lexer.gives_next
      rw [taken] at given
      cases given with
      | token split blank stands =>
          rw [located, locateAll_of_some taken, locateAll_of_some taken, ih, ih]
          simp [split, ← Position.after_append]

theorem located_of_none {lexer later : Lexer} (ended : lexer.next = (none, later))
    : lexer.located = [] := by
  rw [located, locateAll_of_none ended]
  rfl

theorem located_of_some {lexer later : Lexer} {token : Token}
    (took : lexer.next = (some token, later))
    : lexer.located = ⟨lexer.skipSpace.position, token⟩ :: later.located := by
  rw [located, locateAll_of_some took, locateAll_eq]
  rfl

theorem collect_eq (lexer : Lexer)
    : lexer.collect
      = (lexer.located.map Located.token, ⟨lexer.position.after lexer.rest, []⟩) := by
  rw [collect, locateAll_eq]
  rfl

theorem program_eq (lexer : Lexer)
    : lexer.program = (.ofTokens lexer.located, ⟨lexer.position.after lexer.rest, []⟩) := by
  rw [program, locateAll_eq]
  rfl

/-- The text that is left spells the tokens that are left. -/
theorem spells_located (lexer : Lexer)
    : Spells lexer.rest (lexer.located.map Located.token) := by
  induction lexer using next_induction with
  | ended lexer later nothing =>
      have given := lexer.gives_next
      rw [nothing] at given
      cases given with
      | nothing blank =>
          rw [located_of_none nothing]
          exact .blank blank
  | took lexer token later taken ih =>
      have given := lexer.gives_next
      rw [taken] at given
      cases given with
      | token split blank stands =>
          rw [located_of_some taken, split]
          exact .token blank stands ih

end Lexer

/-- A text has the tokens that it spells, by induction on these. -/
theorem Spells.located {text : List Char} {tokens : List Token} (spells : Spells text tokens)
    (position : Position)
    : (⟨position, text⟩ : Lexer).located.map Located.token = tokens := by
  induction spells generalizing position with
  | blank blank => rw [Lexer.located_of_none (Lexer.next_of_blank position blank), List.map_nil]
  | token blank stands later ih =>
      rw [Lexer.located_of_some (Lexer.next_of_spelled position blank stands), List.map_cons, ih]

/-- The lexer finds exactly the tokens that its text spells. -/
theorem collect_eq_iff {lexer : Lexer} {tokens : List Token}
    : lexer.collect.1 = tokens ↔ Spells lexer.rest tokens := by
  rw [Lexer.collect_eq]
  constructor
  · rintro rfl
    exact lexer.spells_located
  · intro spells
    exact spells.located lexer.position

end TapeMachine.Source
