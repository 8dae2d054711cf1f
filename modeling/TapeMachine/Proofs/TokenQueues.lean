import TapeMachine.Proofs.Spelling

/-! One lexer that is asked again and again, in any order, for the next token, for all tokens that
are left or for the program that is left. It answers as if the tokens of the whole text stood in a
queue, from the front of which every request takes its piece. It stands right behind the last token
that it gave, or at the end of the text once a reply has shown that end.
-/

namespace TapeMachine.Source

-----------------------------------------------------------------------------------------
-- Requests and replies
-----------------------------------------------------------------------------------------

inductive Request where
  | next
  | collect
  | program
deriving DecidableEq, Inhabited

inductive Reply where
  /-- The next token; none at the end of the text. -/
  | token (token : Option Token)
  | tokens (tokens : List Token)
  | program (program : Program)
deriving DecidableEq, Inhabited

/-- A reply tells that there is nothing behind it. -/
def Reply.showsEnd : Reply → Bool
  | .token found => found.isNone
  | .tokens _ | .program _ => true

namespace Lexer

def answer (lexer : Lexer) : Request → Reply × Lexer
  | .next =>
      let (token, later) := lexer.next
      (.token token, later)
  | .collect =>
      let (tokens, later) := lexer.collect
      (.tokens tokens, later)
  | .program =>
      let (program, later) := lexer.program
      (.program program, later)

/-- Answers requests one after the other. -/
def answerAll (lexer : Lexer) : List Request → List Reply × Lexer
  | [] => ([], lexer)
  | request :: requests =>
      let (reply, later) := lexer.answer request
      let (replies, finished) := later.answerAll requests
      (reply :: replies, finished)

end Lexer

-----------------------------------------------------------------------------------------
-- The queue of tokens
-----------------------------------------------------------------------------------------

/-- The tokens that a request takes from those that are left. -/
def Request.piece (left : List Located) : Request → List Located
  | .next => left.take 1
  | .collect | .program => left

/-- The reply that delivers a piece. -/
def Request.reply (piece : List Located) : Request → Reply
  | .next => .token (piece.head?.map Located.token)
  | .collect => .tokens (piece.map Located.token)
  | .program => .program (.ofTokens piece)

/-- The tokens that are left, cut into the pieces that requests take one after the other. -/
def pieces (left : List Located) : List Request → List (List Located)
  | [] => []
  | request :: requests =>
      request.piece left :: pieces (left.drop (request.piece left).length) requests

/-- The replies that deliver the pieces. -/
def deliveries (left : List Located) (requests : List Request) : List Reply :=
  List.zipWith (fun request piece => request.reply piece) requests (pieces left requests)

/-- A text ends right behind the last of some tokens; it is empty if there are none. -/
def EndsBehind (tokens : List Located) (text : List Char) : Prop :=
  match tokens.getLast? with
  | none => text = []
  | some last => last.token.text <:+ text

theorem EndsBehind.append {tokens others : List Located} {text more : List Char}
    (first : EndsBehind tokens text) (second : EndsBehind others more)
    : EndsBehind (tokens ++ others) (text ++ more) := by
  unfold EndsBehind at second ⊢
  rw [List.getLast?_append]
  cases last : others.getLast? with
  | none =>
      rw [last] at second
      rw [second, List.append_nil]
      exact first
  | some located =>
      rw [last] at second
      exact second.trans (List.suffix_append text more)

-----------------------------------------------------------------------------------------
-- From one place to the next
-----------------------------------------------------------------------------------------

namespace Lexer

/-- A lexer has passed over a text that spells the first of its tokens and is now the later one. -/
structure Passes (lexer : Lexer) (text : List Char) (tokens : List Located) (later : Lexer)
    : Prop where
  rest : lexer.rest = text ++ later.rest
  position : later.position = lexer.position.after text
  located : lexer.located = tokens ++ later.located
  spells : Spells text (tokens.map Located.token)
  breaks : BreaksBetween text later.rest

theorem Passes.refl (lexer : Lexer)
    : lexer.Passes [] [] lexer :=
  ⟨rfl, rfl, rfl, .blank nofun, nofun⟩

theorem Passes.trans {lexer middle later : Lexer} {text more : List Char}
    {tokens others : List Located} (first : lexer.Passes text tokens middle)
    (second : middle.Passes more others later)
    : lexer.Passes (text ++ more) (tokens ++ others) later where
  rest := by rw [first.rest, second.rest, List.append_assoc]
  position := by rw [second.position, first.position, Position.after_append]
  located := by rw [first.located, second.located, List.append_assoc]
  spells := by
    rw [List.map_append]
    apply first.spells.append second.spells
    intro last isLast next isNext
    apply first.breaks last isLast next
    rw [second.rest, List.head?_append, Option.mem_def.mp isNext, Option.some_or]
    rfl
  breaks := by
    cases more with
    | nil =>
        have breaks := first.breaks
        rw [second.rest] at breaks
        rwa [List.append_nil]
    | cons c more =>
        intro last isLast
        rw [List.getLast?_append, List.getLast?_eq_some_getLast (List.cons_ne_nil c more),
          Option.some_or] at isLast
        apply second.breaks last
        rwa [List.getLast?_eq_some_getLast (List.cons_ne_nil c more)]

theorem passes_rest (lexer : Lexer)
    : lexer.Passes lexer.rest lexer.located ⟨lexer.position.after lexer.rest, []⟩ where
  rest := (List.append_nil _).symm
  position := rfl
  located := by
    have none : (⟨lexer.position.after lexer.rest, []⟩ : Lexer).located = [] :=
      located_of_none (next_of_blank _ (fun _ => List.not_mem_nil.elim))
    rw [none, List.append_nil]
  spells := lexer.spells_located
  breaks := by
    intro last _ first isFirst
    cases isFirst

/-- The next token is passed together with the white space before it. -/
theorem passes_next {lexer later : Lexer} {token : Token}
    (took : lexer.next = (some token, later))
    : ∃ text,
        lexer.Passes text [⟨lexer.skipSpace.position, token⟩] later
        ∧ token.text <:+ text := by
  have given := lexer.gives_next
  rw [took] at given
  cases given with
  | @token spaces rest token split blank stands =>
      have spells : Spells (spaces ++ (token.text ++ [])) [token] :=
        .token blank stands.alone (.blank nofun)
      rw [List.append_nil] at spells
      refine ⟨spaces ++ token.text, ⟨?_, rfl, located_of_some took, spells, stands.breaks spaces⟩,
        List.suffix_append spaces token.text⟩
      rw [split, List.append_assoc]

-----------------------------------------------------------------------------------------
-- Answers
-----------------------------------------------------------------------------------------

/-- A request takes its piece from the tokens that are left. The lexer has seen the end of the text
if the reply shows it, and otherwise stands behind the token that it gave.
-/
theorem answer_passes (lexer : Lexer) (request : Request)
    : ∃ text,
        lexer.Passes text (request.piece lexer.located) (lexer.answer request).2
        ∧ (lexer.answer request).1 = request.reply (request.piece lexer.located)
        ∧ ((lexer.answer request).1.showsEnd = true → (lexer.answer request).2.rest = [])
        ∧ ((lexer.answer request).1.showsEnd = false
          → EndsBehind (request.piece lexer.located) text) := by
  cases request with
  | next =>
      rcases taken : lexer.next with ⟨_ | token, later⟩
      · have given := lexer.gives_next
        rw [taken] at given
        cases given
        have passes := lexer.passes_rest
        rw [located_of_none taken] at passes
        refine ⟨lexer.rest, ?_, ?_, ?_, ?_⟩
        all_goals simp only [answer, taken, located_of_none taken]
        · exact passes
        · rfl
        · simp
        · nofun
      · obtain ⟨text, passes, behind⟩ := passes_next taken
        refine ⟨text, ?_, ?_, ?_, ?_⟩
        all_goals simp only [answer, taken, located_of_some taken]
        · exact passes
        · rfl
        · nofun
        · intro _
          exact behind
  | collect =>
      refine ⟨lexer.rest, ?_, ?_, ?_, nofun⟩
      all_goals simp only [answer, collect_eq]
      · exact lexer.passes_rest
      · rfl
      · simp
  | program =>
      refine ⟨lexer.rest, ?_, ?_, ?_, nofun⟩
      all_goals simp only [answer, program_eq]
      · exact lexer.passes_rest
      · rfl
      · simp

theorem answerAll_cons (lexer : Lexer) (request : Request) (requests : List Request)
    : lexer.answerAll (request :: requests)
      = ((lexer.answer request).1 :: ((lexer.answer request).2.answerAll requests).1,
          ((lexer.answer request).2.answerAll requests).2) :=
  rfl

theorem Passes.pieces_cons {lexer later : Lexer} {text : List Char} {request : Request}
    (passes : lexer.Passes text (request.piece lexer.located) later) (requests : List Request)
    : pieces lexer.located (request :: requests)
      = request.piece lexer.located :: pieces later.located requests := by
  have left := passes.located
  rw [pieces]
  generalize request.piece lexer.located = piece at left
  rw [left, List.drop_left]

/-- Requests in a row take their pieces one after the other, by induction on the requests. -/
theorem answerAll_passes (lexer : Lexer) (requests : List Request)
    : ∃ text,
        lexer.Passes text (pieces lexer.located requests).flatten (lexer.answerAll requests).2
        ∧ (lexer.answerAll requests).1 = deliveries lexer.located requests
        ∧ ((lexer.answerAll requests).1.any Reply.showsEnd = true
          → (lexer.answerAll requests).2.rest = [])
        ∧ ((lexer.answerAll requests).1.any Reply.showsEnd = false
          → EndsBehind (pieces lexer.located requests).flatten text) := by
  induction requests generalizing lexer with
  | nil => exact ⟨[], .refl lexer, rfl, nofun, fun _ => rfl⟩
  | cons request requests ih =>
      obtain ⟨text, passes, reply, atEnd, behind⟩ := lexer.answer_passes request
      obtain ⟨more, further, replies, laterEnd, furtherBehind⟩ := ih (lexer.answer request).2
      have cut := passes.pieces_cons requests
      refine ⟨text ++ more, ?_, ?_, ?_, ?_⟩
      · rw [cut]
        exact passes.trans further
      · rw [answerAll_cons, deliveries, cut, reply, replies]
        rfl
      · rw [answerAll_cons, List.any_cons, Bool.or_eq_true]
        rintro (first | later)
        · have nothing := further.rest
          rw [atEnd first] at nothing
          exact (List.append_eq_nil_iff.mp nothing.symm).2
        · exact laterEnd later
      · rw [answerAll_cons, List.any_cons, Bool.or_eq_false_iff, cut]
        rintro ⟨first, later⟩
        exact (behind first).append (furtherBehind later)

/-- At the end of the text there is nothing to deliver, and the lexer stays there. -/
theorem answer_of_ended {lexer : Lexer} (ended : lexer.rest = []) (request : Request)
    : lexer.answer request = (request.reply [], lexer) := by
  obtain ⟨position, rest⟩ := lexer
  obtain rfl : rest = [] := ended
  have nothing : (⟨position, []⟩ : Lexer).next = (none, ⟨position, []⟩) := rfl
  cases request with
  | next => rfl
  | collect =>
      rw [answer, collect_eq, located_of_none nothing]
      rfl
  | program =>
      rw [answer, program_eq, located_of_none nothing]
      rfl

theorem answerAll_of_ended {lexer : Lexer} (ended : lexer.rest = []) (requests : List Request)
    : lexer.answerAll requests = (requests.map (Request.reply []), lexer) := by
  induction requests with
  | nil => rfl
  | cons request requests ih => rw [answerAll_cons, answer_of_ended ended, ih, List.map_cons]

end Lexer

-----------------------------------------------------------------------------------------
-- Reports
-----------------------------------------------------------------------------------------

theorem describes_located (source : String)
    : Describes [] source.toList (Lexer.ofString source).located := by
  have beginning : Lexer.BreaksBetween [] source.toList := nofun
  obtain ⟨tokens, found, describes⟩ :=
    @Lexer.locateAll_describes (.ofString source) [] rfl beginning []
  have same : (Lexer.ofString source).located = tokens := found
  rwa [same]

/-- A program that is delivered is made of tokens that were left, by induction on the requests. -/
theorem program_of_deliveries {left : List Located} {requests : List Request} {program : Program}
    (delivered : .program program ∈ deliveries left requests)
    : ∃ piece, piece ⊆ left ∧ program = .ofTokens piece := by
  induction requests generalizing left with
  | nil => cases delivered
  | cons request requests ih =>
      obtain now | later := List.mem_cons.mp delivered
      · cases request with
        | next | collect => cases now
        | program =>
            cases now
            exact ⟨left, List.Subset.refl left, rfl⟩
      · obtain ⟨piece, subset, same⟩ := ih later
        exact ⟨piece, List.Subset.trans subset (List.drop_subset _ left), same⟩

/-- A report in a program that is delivered stands where the whole text has its word. -/
theorem reportIn_of_deliveries {source : String} {requests : List Request} {program : Program}
    {report : Diagnostic}
    (delivered : .program program ∈ deliveries (Lexer.ofString source).located requests)
    (reported : report ∈ program.diagnostics)
    : ReportIn [] source.toList report := by
  obtain ⟨piece, subset, rfl⟩ := program_of_deliveries delivered
  obtain ⟨token, member, reports⟩ := List.mem_filterMap.mp reported
  apply ((describes_located source).reports report).mp
  exact List.mem_filterMap.mpr ⟨token, subset member, reports⟩

/-- Calls of one lexer compose in any order. The tokens of the whole text are cut into pieces where
one call follows the other, and each reply delivers its piece: the next token if there is one, or
all that are left, as tokens or as a program. The reports of a program are at their places in the
whole text, whenever it is asked for. After the calls the lexer has come past a beginning of the
text that spells what was delivered, and its position counts the lines, the characters since the
last newline and the characters of that beginning. It ends right behind the last token that was
delivered, or with the text once a reply has shown the end, behind which there is nothing to
deliver.
-/
theorem calls_share_one_queue (source : String) (requests : List Request)
    : ∃ replies later passed,
        (Lexer.ofString source).answerAll requests = (replies, later)
        ∧ (Lexer.ofString source).located.map Located.token = (Lexer.ofString source).collect.1
        ∧ replies = deliveries (Lexer.ofString source).located requests
        ∧ (pieces (Lexer.ofString source).located requests).flatten.map Located.token
            ++ later.collect.1
          = (Lexer.ofString source).collect.1
        ∧ (∀ program, .program program ∈ replies
          → ∀ report ∈ program.diagnostics,
              ∃ before word behind,
                source.toList = before ++ word ++ behind
                ∧ MaximalRun before word behind
                ∧ report.text = String.ofList word
                ∧ report.position.offset = before.length
                ∧ report.position.line = 1 + before.count '\n'
                ∧ report.position.column
                  = 1 + (before.reverse.takeWhile (· != '\n')).length)
        ∧ source.toList = passed ++ later.rest
        ∧ later.position
          = ⟨1 + passed.count '\n', 1 + (passed.reverse.takeWhile (· != '\n')).length,
              passed.length⟩
        ∧ (Lexer.ofString (String.ofList passed)).collect.1
          = (pieces (Lexer.ofString source).located requests).flatten.map Located.token
        ∧ (replies.any Reply.showsEnd = true
          → later.rest = []
            ∧ ∀ more, later.answerAll more = (more.map (Request.reply []), later))
        ∧ (replies.any Reply.showsEnd = false
          → EndsBehind (pieces (Lexer.ofString source).located requests).flatten passed) := by
  obtain ⟨passed, passes, replies, atEnd, behind⟩ :=
    (Lexer.ofString source).answerAll_passes requests
  refine ⟨_, _, passed, rfl, ?_, replies, ?_, ?_, passes.rest, ?_, ?_, ?_, behind⟩
  · rw [Lexer.collect_eq]
  · rw [Lexer.collect_eq, Lexer.collect_eq, ← List.map_append, ← passes.located]
  · intro program delivered report reported
    rw [replies] at delivered
    exact reportIn_iff.mp (reportIn_of_deliveries delivered reported)
  · rw [passes.position, ← Position.after_start]
    rfl
  · rw [collect_eq_iff, Lexer.ofString, String.toList_ofList]
    exact passes.spells
  · intro shown
    exact ⟨atEnd shown, Lexer.answerAll_of_ended (atEnd shown)⟩

end TapeMachine.Source
