import TapeMachine.Source.Lexer

/-! The tokens of a source text without the lexer. Its instructions are the characters that stand
for one, and its skipped words are the maximal runs of characters that are neither instructions nor
white space, each at the place that the text before it gives. The lexer finds just these, which is
shown token by token.
-/

namespace TapeMachine.Source

-----------------------------------------------------------------------------------------
-- Places
-----------------------------------------------------------------------------------------

/-- The place behind a text that begins the source, by counting: lines by the newlines, columns by
the characters since the last of them. By induction on the text from its end.
-/
theorem Position.after_start (text : List Char)
    : Position.start.after text
      = ⟨1 + text.count '\n', 1 + (text.reverse.takeWhile (· != '\n')).length, text.length⟩ := by
  obtain ⟨backwards, rfl⟩ : ∃ backwards, text = backwards.reverse :=
    ⟨text.reverse, text.reverse_reverse.symm⟩
  induction backwards with
  | nil => rfl
  | cons last earlier ih =>
      rw [List.reverse_cons, Position.after_append, ih]
      simp only [Position.after, List.foldl_cons, List.foldl_nil, Position.advance]
      by_cases newline : last = '\n'
      · subst newline
        simp
        omega
      · simp [newline]
        omega

-----------------------------------------------------------------------------------------
-- Symbols
-----------------------------------------------------------------------------------------

/-- The characters of a text that are symbols of instructions, in order. -/
def symbols (text : List Char) : List Char :=
  text.filter (Opcode.all.map Opcode.symbol).contains

/-- A character is a symbol exactly if it stands for an instruction. -/
theorem contains_symbol (c : Char)
    : (Opcode.all.map Opcode.symbol).contains c = (Opcode.ofChar? c).isSome := by
  rw [Bool.eq_iff_iff, List.contains_iff_mem, List.mem_map, Opcode.ofChar?, List.find?_isSome]
  simp

theorem map_symbol_filterMap (text : List Char)
    : (text.filterMap Opcode.ofChar?).map Opcode.symbol = symbols text := by
  induction text with
  | nil => rfl
  | cons c text ih =>
      have kept := contains_symbol c
      rw [symbols] at ih ⊢
      cases reads : Opcode.ofChar? c with
      | none =>
          rw [reads] at kept
          rw [List.filterMap_cons_none reads,
            List.filter_cons_of_neg (ne_true_of_eq_false kept), ih]
      | some op =>
          rw [reads] at kept
          rw [List.filterMap_cons_some reads, List.filter_cons_of_pos kept, List.map_cons, ih,
            Opcode.symbol_of_ofChar? reads]

-----------------------------------------------------------------------------------------
-- Maximal runs
-----------------------------------------------------------------------------------------

/-- Between the texts before and after it, a word is a maximal run of comment characters. -/
structure MaximalRun (before word after : List Char) : Prop where
  nonempty : word ≠ []
  comment : ∀ c ∈ word, Lexer.isComment c = true
  left : ∀ c ∈ before.getLast?, Lexer.isComment c = false
  right : ∀ c ∈ after.head?, Lexer.isComment c = false

/-- The report of a maximal run of a text that comes behind `passed`. -/
def ReportIn (passed text : List Char) (report : Diagnostic) : Prop :=
  ∃ before word after,
    text = before ++ word ++ after
    ∧ MaximalRun (passed ++ before) word after
    ∧ report = ⟨Position.start.after (passed ++ before), String.ofList word⟩

section Runs

variable {passed text word : List Char} {report : Diagnostic}

theorem not_reportIn_nil (passed : List Char) (report : Diagnostic)
    : ¬ ReportIn passed [] report := by
  rintro ⟨before, word, after, split, run, _⟩
  have nothing : word = [] := by
    simp only [List.nil_eq, List.append_eq_nil_iff] at split
    exact split.1.2
  exact run.nonempty nothing

theorem ReportIn.length_le (found : ReportIn passed text report)
    : passed.length ≤ report.position.offset := by
  obtain ⟨before, word, after, _, _, rfl⟩ := found
  simp [Position.after_start]

/-- The reports of a whole text, field by field. -/
theorem reportIn_iff
    : ReportIn [] text report
      ↔ ∃ before word after,
          text = before ++ word ++ after
          ∧ MaximalRun before word after
          ∧ report.text = String.ofList word
          ∧ report.position.offset = before.length
          ∧ report.position.line = 1 + before.count '\n'
          ∧ report.position.column = 1 + (before.reverse.takeWhile (· != '\n')).length := by
  obtain ⟨⟨line, column, offset⟩, words⟩ := report
  simp only [ReportIn, List.nil_append, Position.after_start, Diagnostic.mk.injEq,
    Position.mk.injEq]
  constructor
  · rintro ⟨before, word, after, split, run, ⟨lines, columns, offsets⟩, same⟩
    exact ⟨before, word, after, split, run, same, offsets, lines, columns⟩
  · rintro ⟨before, word, after, split, run, same, offsets, lines, columns⟩
    exact ⟨before, word, after, split, run, ⟨lines, columns, offsets⟩, same⟩

/-- No run begins with a character that belongs to none. -/
theorem reportIn_cons {c : Char} (other : Lexer.isComment c = false)
    : ReportIn passed (c :: text) report ↔ ReportIn (passed ++ [c]) text report := by
  constructor
  · rintro ⟨before, word, after, split, run, reported⟩
    cases before with
    | nil =>
        obtain ⟨first, rest, rfl⟩ := List.exists_cons_of_ne_nil run.nonempty
        obtain ⟨rfl, _⟩ := List.cons.inj split
        have comment := run.comment c List.mem_cons_self
        rw [other] at comment
        cases comment
    | cons first before =>
        obtain ⟨rfl, rest⟩ := List.cons.inj split
        rw [List.append_cons] at run reported
        exact ⟨before, word, after, rest, run, reported⟩
  · rintro ⟨before, word, after, rfl, run, reported⟩
    rw [← List.append_cons] at run reported
    exact ⟨c :: before, word, after, rfl, run, reported⟩

theorem reportIn_append_of_others {others : List Char}
    (none : ∀ c ∈ others, Lexer.isComment c = false)
    : ReportIn passed (others ++ text) report ↔ ReportIn (passed ++ others) text report := by
  induction others generalizing passed with
  | nil => rw [List.append_nil, List.nil_append]
  | cons c others ih =>
      have first := none c List.mem_cons_self
      have rest (other : Char) (member : other ∈ others) :=
        none other (List.mem_cons_of_mem c member)
      rw [List.cons_append, reportIn_cons first, ih rest, List.append_assoc, List.singleton_append]

/-- The text behind a run tells where the run ends. -/
theorem MaximalRun.takeWhile_eq {before after : List Char} (run : MaximalRun before word after)
    : (word ++ after).takeWhile Lexer.isComment = word := by
  have stops : after.takeWhile Lexer.isComment = [] := by
    cases after with
    | nil => rfl
    | cons c rest => exact List.takeWhile_cons_of_neg (by simp [run.right c rfl])
  rw [List.takeWhile_append_of_pos run.comment, stops, List.append_nil]

/-- The runs of a text that begins with a run are this one and those behind it. -/
theorem reportIn_append_of_run (run : MaximalRun passed word text)
    : ReportIn passed (word ++ text) report
      ↔ report = ⟨Position.start.after passed, String.ofList word⟩
        ∨ ReportIn (passed ++ word) text report := by
  constructor
  · rintro ⟨before, other, after, split, otherRun, rfl⟩
    rw [List.append_assoc, List.append_eq_append_iff] at split
    obtain ⟨between, rfl, split⟩ | ⟨rest, rfl, split⟩ := split
    · rw [← List.append_assoc] at otherRun ⊢
      exact .inr ⟨between, other, after, by rw [split, List.append_assoc], otherRun, rfl⟩
    · cases before with
      | nil =>
          rw [List.append_nil] at otherRun ⊢
          rw [List.nil_append] at run ⊢
          have same : other = rest := by
            rw [← otherRun.takeWhile_eq, split, run.takeWhile_eq]
          exact .inl (by rw [same])
      | cons c before =>
          -- The other run would begin behind a character of this one.
          have nonempty := List.cons_ne_nil c before
          have last : (passed ++ c :: before).getLast? = some ((c :: before).getLast nonempty) := by
            rw [List.getLast?_append, List.getLast?_eq_some_getLast nonempty, Option.some_or]
          have outside := otherRun.left _ last
          have inside := run.comment _ (List.mem_append_left rest (List.getLast_mem nonempty))
          rw [outside] at inside
          cases inside
  · rintro (rfl | ⟨before, other, after, rfl, otherRun, rfl⟩)
    · have atOnce : passed ++ [] = passed := List.append_nil passed
      exact ⟨[], word, text, rfl, atOnce.symm ▸ run, by rw [atOnce]⟩
    · rw [List.append_assoc] at otherRun
      exact ⟨word ++ before, other, after, by simp only [List.append_assoc], otherRun,
        by rw [List.append_assoc]⟩

end Runs

-----------------------------------------------------------------------------------------
-- Descriptions
-----------------------------------------------------------------------------------------

/-- The tokens of a text that comes behind `passed`: its instructions in order, and the reports of
its maximal runs in the order in which they occur.
-/
structure Describes (passed text : List Char) (tokens : List Located) : Prop where
  opcodes : tokens.filterMap Located.opcode? = text.filterMap Opcode.ofChar?
  reports : ∀ report, report ∈ tokens.filterMap Located.diagnostic? ↔ ReportIn passed text report
  ordered : (tokens.filterMap Located.diagnostic?).Pairwise
    (fun earlier later => earlier.position.offset < later.position.offset)

/-- White space stands for no instruction. -/
theorem ofChar?_of_isSpace {c : Char} (space : Text.isSpace c = true)
    : Opcode.ofChar? c = none := by
  cases reads : Opcode.ofChar? c with
  | none => rfl
  | some op =>
      rw [← Opcode.symbol_of_ofChar? reads] at space
      cases op <;> exact absurd space (by decide)

theorem isComment_of_isSpace {c : Char} (space : Text.isSpace c = true)
    : Lexer.isComment c = false := by
  simp [Lexer.isComment, space]

theorem isComment_of_ofChar? {c : Char} {op : Opcode} (reads : Opcode.ofChar? c = some op)
    : Lexer.isComment c = false := by
  simp [Lexer.isComment, reads]

theorem ofChar?_of_isComment {c : Char} (comment : Lexer.isComment c = true)
    : Opcode.ofChar? c = none := by
  simpa [Lexer.isComment] using (Bool.and_eq_true_iff.mp comment).2

namespace Describes

variable {passed text : List Char} {tokens : List Located}

theorem nil (passed : List Char)
    : Describes passed [] [] where
  opcodes := rfl
  reports report := by simp [not_reportIn_nil]
  ordered := .nil

theorem skip {spaces : List Char} (blank : ∀ c ∈ spaces, Text.isSpace c = true)
    (describes : Describes (passed ++ spaces) text tokens)
    : Describes passed (spaces ++ text) tokens where
  opcodes := by
    have nothing : spaces.filterMap Opcode.ofChar? = [] :=
      List.filterMap_eq_nil_iff.mpr (fun c member => ofChar?_of_isSpace (blank c member))
    rw [List.filterMap_append, nothing, List.nil_append, describes.opcodes]
  reports report := by
    rw [describes.reports, reportIn_append_of_others]
    intro c member
    exact isComment_of_isSpace (blank c member)
  ordered := describes.ordered

theorem op {c : Char} {op : Opcode} (reads : Opcode.ofChar? c = some op)
    (describes : Describes (passed ++ [c]) text tokens) (position : Position)
    : Describes passed (c :: text) (⟨position, .op op⟩ :: tokens) where
  opcodes := by
    simp only [List.filterMap_cons, Located.opcode?, reads, describes.opcodes]
  reports report := by
    rw [reportIn_cons (isComment_of_ofChar? reads)]
    exact describes.reports report
  ordered := describes.ordered

theorem comment {word : List Char} (run : MaximalRun passed word text)
    (describes : Describes (passed ++ word) text tokens)
    : Describes passed (word ++ text)
        (⟨Position.start.after passed, .comment (String.ofList word)⟩ :: tokens) where
  opcodes := by
    have nothing : word.filterMap Opcode.ofChar? = [] :=
      List.filterMap_eq_nil_iff.mpr (fun c member => ofChar?_of_isComment (run.comment c member))
    rw [List.filterMap_append, nothing, List.nil_append, ← describes.opcodes]
    rfl
  reports report := by
    rw [reportIn_append_of_run run, ← describes.reports]
    exact List.mem_cons
  ordered := by
    apply List.Pairwise.cons _ describes.ordered
    intro later member
    have behind := ((describes.reports later).mp member).length_le
    have positive := List.length_pos_iff.mpr run.nonempty
    rw [List.length_append] at behind
    simp only [Position.after_start]
    omega

end Describes

-----------------------------------------------------------------------------------------
-- The lexer
-----------------------------------------------------------------------------------------

theorem head_dropWhile (p : Char → Bool) (text : List Char)
    : ∀ c ∈ (text.dropWhile p).head?, p c = false := by
  intro c first
  have stops := List.head?_dropWhile_not p text
  rw [Option.mem_def.mp first] at stops
  exact stops

namespace Lexer

/-- What a lexer takes from a text that does not begin with white space: nothing at the end of the
text, an instruction, or a word that is as long as can be.
-/
inductive Takes (lexer : Lexer) : Option Token × Lexer → Prop where
  | nothing (ended : lexer.rest = [])
    : lexer.Takes (none, lexer)
  | op {c : Char} {op : Opcode} {rest : List Char} (split : lexer.rest = c :: rest)
      (reads : Opcode.ofChar? c = some op)
    : lexer.Takes (some (.op op), ⟨lexer.position.after [c], rest⟩)
  | comment {word rest : List Char} (split : lexer.rest = word ++ rest) (nonempty : word ≠ [])
      (comment : ∀ c ∈ word, isComment c = true) (right : ∀ c ∈ rest.head?, isComment c = false)
    : lexer.Takes (some (.comment (String.ofList word)), ⟨lexer.position.after word, rest⟩)

theorem takes_take {lexer : Lexer} (begins : ∀ c ∈ lexer.rest.head?, Text.isSpace c = false)
    : lexer.Takes lexer.take := by
  unfold take
  cases rest : lexer.rest with
  | nil => exact .nothing rest
  | cons c text =>
      cases reads : Opcode.ofChar? c with
      | some op =>
          simp only [reads]
          exact .op rest reads
      | none =>
          have first : isComment c = true := by
            simp [isComment, reads, begins c (by rw [rest]; rfl)]
          have split
              : lexer.rest = (c :: text.takeWhile isComment) ++ text.dropWhile isComment := by
            rw [rest, List.cons_append, List.takeWhile_append_dropWhile]
          simp only [reads]
          apply Takes.comment split (List.cons_ne_nil _ _) _ (head_dropWhile isComment text)
          intro other member
          rcases List.mem_cons.mp member with rfl | member
          · exact first
          · exact List.all_eq_true.mp List.all_takeWhile other member

/-- Skipping passes over a piece of white space, and no more of it comes next. -/
theorem takes_skipSpace (lexer : Lexer)
    : ∃ spaces,
        (∀ c ∈ spaces, Text.isSpace c = true)
        ∧ lexer.rest = spaces ++ lexer.skipSpace.rest
        ∧ lexer.skipSpace.position = lexer.position.after spaces
        ∧ lexer.skipSpace.Takes lexer.skipSpace.take :=
  ⟨lexer.rest.takeWhile Text.isSpace, List.all_eq_true.mp List.all_takeWhile,
    List.takeWhile_append_dropWhile.symm, rfl,
    takes_take (head_dropWhile Text.isSpace lexer.rest)⟩

/-- No run goes on from one text into the next one. -/
def BreaksBetween (passed rest : List Char) : Prop :=
  ∀ last ∈ passed.getLast?, ∀ first ∈ rest.head?,
    isComment last = true → isComment first = false

/-- White space keeps runs apart. -/
theorem BreaksBetween.append {passed spaces rest : List Char}
    (breaks : BreaksBetween passed (spaces ++ rest))
    (blank : ∀ c ∈ spaces, Text.isSpace c = true)
    : BreaksBetween (passed ++ spaces) rest := by
  cases spaces with
  | nil =>
      rw [List.append_nil]
      exact breaks
  | cons c spaces =>
      intro last isLast first isFirst comment
      rw [List.getLast?_append, List.getLast?_eq_some_getLast (List.cons_ne_nil c spaces),
        Option.some_or] at isLast
      obtain rfl := Option.some.inj isLast
      rw [isComment_of_isSpace (blank _ (List.getLast_mem _))] at comment
      cases comment

/-- A lexer that stands between two runs and takes a token is between two runs again, and the token
comes first in what describes its text.
-/
theorem Takes.describes {lexer later : Lexer} {token : Token} {passed : List Char}
    (takes : lexer.Takes (some token, later))
    (position : lexer.position = Position.start.after passed)
    (breaks : BreaksBetween passed lexer.rest)
    : ∃ word,
        later.position = Position.start.after (passed ++ word)
        ∧ BreaksBetween (passed ++ word) later.rest
        ∧ ∀ tokens,
            Describes (passed ++ word) later.rest tokens
            → Describes passed lexer.rest (⟨lexer.position, token⟩ :: tokens) := by
  cases takes with
  | @op c op rest split reads =>
      refine ⟨[c], ?_, ?_, ?_⟩
      · rw [position, Position.after_append]
      · intro last isLast first _ comment
        rw [List.getLast?_concat] at isLast
        obtain rfl := Option.some.inj isLast
        rw [isComment_of_ofChar? reads] at comment
        cases comment
      · intro tokens describes
        rw [split]
        exact describes.op reads lexer.position
  | @comment word rest split nonempty comment right =>
      have run : MaximalRun passed word rest := by
        refine ⟨nonempty, comment, ?_, right⟩
        intro last isLast
        obtain ⟨first, others, rfl⟩ := List.exists_cons_of_ne_nil nonempty
        rw [Bool.eq_false_iff]
        intro goesOn
        have ends := breaks last isLast first (by rw [split]; rfl) goesOn
        rw [comment first List.mem_cons_self] at ends
        cases ends
      refine ⟨word, ?_, ?_, ?_⟩
      · rw [position, Position.after_append]
      · intro last _ first isFirst _
        exact right first isFirst
      · intro tokens describes
        rw [split, position]
        exact describes.comment run

/-- A lexer that stands between two runs locates the tokens of the text that is left, by induction
on that text.
-/
theorem locateAll_describes {lexer : Lexer} {passed : List Char}
    (position : lexer.position = Position.start.after passed)
    (breaks : BreaksBetween passed lexer.rest) (found : List Located)
    : ∃ tokens,
        (lexer.locateAll found).1 = found.reverse ++ tokens
        ∧ Describes passed lexer.rest tokens := by
  fun_induction Lexer.locateAll lexer found generalizing passed with
  | case1 lexer found finished taken =>
      obtain ⟨spaces, blank, split, _, takes⟩ := lexer.takes_skipSpace
      rw [taken] at takes
      obtain ⟨ended⟩ := takes
      refine ⟨[], (List.append_nil _).symm, ?_⟩
      rw [split, ended]
      exact .skip blank (.nil _)
  | case2 lexer found token later taken ih =>
      obtain ⟨spaces, blank, split, skipped, takes⟩ := lexer.takes_skipSpace
      rw [taken] at takes
      have there : lexer.skipSpace.position = Position.start.after (passed ++ spaces) := by
        rw [skipped, position, Position.after_append]
      rw [split] at breaks ⊢
      obtain ⟨word, behind, apart, extend⟩ := takes.describes there (breaks.append blank)
      obtain ⟨tokens, located, describes⟩ := ih behind apart
      refine ⟨⟨lexer.skipSpace.position, token⟩ :: tokens, ?_, (extend tokens describes).skip blank⟩
      rw [located, List.reverse_cons, List.append_assoc, List.singleton_append]

end Lexer

theorem describes_ofString (source : String)
    : ∃ tokens, Program.ofString source = .ofTokens tokens ∧ Describes [] source.toList tokens := by
  have beginning : Lexer.BreaksBetween [] source.toList := nofun
  obtain ⟨tokens, located, describes⟩ :=
    @Lexer.locateAll_describes (.ofString source) [] rfl beginning []
  refine ⟨tokens, ?_, describes⟩
  exact congrArg Program.ofTokens located

/-- The instructions of a source text are the characters that stand for one, in order. -/
theorem opcodes_ofString (source : String)
    : (Program.ofString source).opcodes = source.toList.filterMap Opcode.ofChar? := by
  obtain ⟨tokens, program, describes⟩ := describes_ofString source
  rw [program]
  exact describes.opcodes

theorem symbols_ofString (source : String)
    : (Program.ofString source).opcodes.map Opcode.symbol = symbols source.toList := by
  rw [opcodes_ofString, map_symbol_filterMap]

/-- The program of a source text has the instructions that its characters stand for, in order. It
reports exactly the maximal runs of characters that are neither white space nor instructions, in
the order in which they occur, each as it stands in the text and at its place: the offset counts the
characters before it, the line the newlines before it, and the column the characters since the last
of these.
-/
theorem lexer_finds_symbols_and_runs (source : String)
    : (Program.ofString source).opcodes = source.toList.filterMap Opcode.ofChar?
      ∧ (Program.ofString source).opcodes.map Opcode.symbol = symbols source.toList
      ∧ (∀ report,
          report ∈ (Program.ofString source).diagnostics
          ↔ ∃ before word after,
              source.toList = before ++ word ++ after
              ∧ MaximalRun before word after
              ∧ report.text = String.ofList word
              ∧ report.position.offset = before.length
              ∧ report.position.line = 1 + before.count '\n'
              ∧ report.position.column
                = 1 + (before.reverse.takeWhile (· != '\n')).length)
      ∧ (Program.ofString source).diagnostics.Pairwise
          (fun earlier later => earlier.position.offset < later.position.offset) := by
  obtain ⟨tokens, program, describes⟩ := describes_ofString source
  refine ⟨opcodes_ofString source, symbols_ofString source, ?_, ?_⟩
  · intro report
    rw [program]
    exact (describes.reports report).trans reportIn_iff
  · rw [program]
    exact describes.ordered

end TapeMachine.Source
