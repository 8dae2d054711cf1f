import TapeMachine.Proofs.LostOutput
import TapeMachine.Proofs.Spelling

/-! The listing of a source text is a source text again, and it has the same tokens. An instruction
can stand next to anything, and a skipped word has a tab before it and a newline behind it, so no
two of them run together.
-/

namespace TapeMachine

-----------------------------------------------------------------------------------------
-- Tokens without their places
-----------------------------------------------------------------------------------------

namespace Source

def Token.opcode? : Token → Option Opcode
  | .op instruction => some instruction
  | .comment _ => none

def Token.word? : Token → Option String
  | .op _ => none
  | .comment word => some word

theorem Program.opcodes_ofTokens (found : List Located)
    : (ofTokens found).opcodes = (found.map Located.token).filterMap Token.opcode? := by
  rw [List.filterMap_map]
  rfl

/-- Where words were skipped does not matter for what they are. -/
theorem Program.words_ofTokens (found : List Located)
    : (ofTokens found).diagnostics.map Diagnostic.text
      = (found.map Located.token).filterMap Token.word? := by
  rw [ofTokens, List.map_filterMap, List.filterMap_map]
  congr 1
  funext located
  obtain ⟨position, token⟩ := located
  cases token <;> rfl

theorem Program.ofString_eq (source : String)
    : ofString source = .ofTokens (Lexer.ofString source).located := by
  rw [ofString, Lexer.program_eq]

/-- Texts with the same tokens hold the same program, but for the places of the skipped words. -/
theorem Program.ofString_congr {first second : String}
    (same : (Lexer.ofString first).collect.1 = (Lexer.ofString second).collect.1)
    : (ofString first).opcodes = (ofString second).opcodes
      ∧ (ofString first).diagnostics.map Diagnostic.text
        = (ofString second).diagnostics.map Diagnostic.text := by
  rw [Lexer.collect_eq, Lexer.collect_eq] at same
  simp only [ofString_eq, opcodes_ofTokens, words_ofTokens]
  exact ⟨congrArg _ same, congrArg _ same⟩

/-- Every token that is spelled can stand alone, by induction on the tokens. -/
theorem Spells.alone {text : List Char} {tokens : List Token} (spells : Spells text tokens)
    : ∀ token ∈ tokens, token.StandsBefore [] := by
  induction spells with
  | blank blank => exact nofun
  | token blank stands later ih => exact List.forall_mem_cons.mpr ⟨stands.alone, ih⟩

end Source

/-- Texts with the same tokens are loaded to the same machine, with the same fault or the same words
skipped.
-/
theorem Machine.load_congr {first second : String}
    (same : (Source.Lexer.ofString first).collect.1 = (Source.Lexer.ofString second).collect.1)
    (machine : Machine) (address : Int)
    : (machine.load first address).2 = (machine.load second address).2
      ∧ (machine.load first address).1.map (List.map Source.Diagnostic.text)
        = (machine.load second address).1.map (List.map Source.Diagnostic.text) := by
  obtain ⟨opcodes, words⟩ := Source.Program.ofString_congr same
  simp only [load, opcodes]
  split
  · exact ⟨rfl, rfl⟩
  · split
    · exact ⟨rfl, rfl⟩
    · exact ⟨rfl, congrArg Except.ok words⟩

-----------------------------------------------------------------------------------------
-- The listing
-----------------------------------------------------------------------------------------

namespace Cli

open Source (Lexer Program Spells Token)

/-- The characters of a listing. -/
def listed (tokens : List Token) : List Char :=
  tokens.flatMap (fun token => (listToken false token).toList) ++ ['\n']

theorem toList_listing (source : String)
    : (listing false source).toList = listed (Lexer.ofString source).collect.1 := by
  rw [listing, String.toList_append, String.toList_join, List.flatMap_map]
  rfl

/-- The listing of tokens spells them, if they can stand alone. The induction is on the tokens: the
newline behind a word is what keeps the next token apart from it.
-/
theorem spells_listed {tokens : List Token} (alone : ∀ token ∈ tokens, token.StandsBefore [])
    : Spells (listed tokens) tokens := by
  have newline : ∀ c ∈ ['\n'], Text.isSpace c = true := List.forall_mem_singleton.mpr rfl
  have tabs : ∀ c ∈ ['\t', '\t'], Text.isSpace c = true :=
    List.forall_mem_cons.mpr ⟨rfl, List.forall_mem_singleton.mpr rfl⟩
  induction tokens with
  | nil => exact .blank newline
  | cons token tokens ih =>
      obtain ⟨first, others⟩ := List.forall_mem_cons.mp alone
      have later := ih others
      cases token with
      | op instruction =>
          have text : listed (.op instruction :: tokens)
              = [] ++ ((Token.op instruction).text ++ listed tokens) := by
            simp [listed, listToken, Token.text]
          rw [text]
          exact .token (List.forall_mem_nil _) trivial later
      | comment word =>
          obtain ⟨nonempty, inside, _⟩ := first
          have stands : (Token.comment word).StandsBefore ('\n' :: listed tokens) := by
            refine ⟨nonempty, inside, ?_⟩
            rintro c ⟨⟩
            decide
          have text : listed (.comment word :: tokens)
              = ['\t', '\t'] ++ ((Token.comment word).text ++ '\n' :: listed tokens) := by
            simp [listed, listToken, paint, Token.text]
          rw [text]
          exact .token tabs stands (later.skip newline)

/-- Lexing a listing gives the tokens that were listed. -/
theorem collect_listing (source : String)
    : (Lexer.ofString (listing false source)).collect.1 = (Lexer.ofString source).collect.1 := by
  have spelled := (@Source.collect_eq_iff (.ofString source) _).mp rfl
  apply Source.collect_eq_iff.mpr
  rw [Lexer.ofString, toList_listing]
  exact spells_listed spelled.alone

theorem listing_listing (source : String)
    : listing false (listing false source) = listing false source := by
  apply String.toList_inj.mp
  rw [toList_listing, collect_listing, toList_listing]

end Cli

-----------------------------------------------------------------------------------------
-- Where the listing goes
-----------------------------------------------------------------------------------------

namespace Console

/-- Nothing of a text waits that ends with a newline. -/
theorem delivered_writeAll {terminal : Console} (working : terminal.outlet = .working)
    (bytes : List UInt8)
    : (terminal.writeAll (bytes ++ [newline])).2.delivered
      = newline :: (bytes.reverse ++ terminal.written) := by
  induction bytes generalizing terminal with
  | nil =>
      have holding : (terminal.hold newline).outlet = .working := working
      simp [writeAll, write, flush_of_working holding, written_hold]
  | cons b bytes ih =>
      have taken := write_of_working working b
      have kept := terminal.outlet_write b
      rcases reply : terminal.write b with ⟨error | _, later⟩ <;> rw [reply] at taken kept
      · cases taken
      · rw [List.cons_append, writeAll, reply]
        simp only
        rw [ih (kept.trans working), written_write_ok reply]
        simp

end Console

namespace Cli

open Source (Lexer Program)

/-- On a device that has room a listing is delivered as it is. -/
theorem listTokens_of_working (environment : Environment) (source : String)
    : listTokens { environment with stdout := .working } source
      = ⟨0, Text.encode (listing environment.colour source), []⟩ := by
  have newline : Text.encode "\n" = [Console.newline] := by decide +kernel
  obtain ⟨body, split⟩ : ∃ body,
      Text.encode (listing environment.colour source) = body ++ [Console.newline] := by
    rw [listing, Text.encode_append, newline]
    exact ⟨_, rfl⟩
  have ends : Console.newline ∈ body ++ [Console.newline] := by simp
  obtain ⟨taken, _⟩ := @Console.writeAll_of_working (.ofOutlet .working) rfl _ (.inl ends)
  have delivered := @Console.delivered_writeAll (.ofOutlet .working) rfl body
  rcases wrote : (Console.ofOutlet .working).writeAll (body ++ [Console.newline])
    with ⟨outcome, console⟩
  rw [wrote] at taken delivered
  obtain rfl : outcome = .ok () := taken
  have all : (Sink.console console).delivered = body ++ [Console.newline] := by
    refine (congrArg List.reverse delivered).trans ?_
    simp [Console.written, Console.ofOutlet]
  simp only [listTokens, split, wrote, all]
  rfl

/-- A listing without colours is a source text with the same tokens as the text that was listed. So
it holds the same instructions and the same skipped words, it is loaded to the same machine, and its
own listing is the same text. It is all that a working device gets.
-/
theorem listing_is_read_back (source : String)
    : (∀ environment : Environment,
        listTokens { environment with stdout := .working, colour := false } source
          = ⟨0, Text.encode (listing false source), []⟩)
      ∧ (Lexer.ofString (listing false source)).collect.1 = (Lexer.ofString source).collect.1
      ∧ (Program.ofString (listing false source)).opcodes = (Program.ofString source).opcodes
      ∧ (Program.ofString (listing false source)).diagnostics.map Source.Diagnostic.text
        = (Program.ofString source).diagnostics.map Source.Diagnostic.text
      ∧ (∀ (machine : Machine) (address : Int),
          (machine.load (listing false source) address).2 = (machine.load source address).2
          ∧ (machine.load (listing false source) address).1.map (List.map Source.Diagnostic.text)
            = (machine.load source address).1.map (List.map Source.Diagnostic.text))
      ∧ listing false (listing false source) = listing false source := by
  have same := collect_listing source
  obtain ⟨opcodes, words⟩ := Program.ofString_congr same
  refine ⟨?_, same, opcodes, words, Machine.load_congr same, listing_listing source⟩
  intro environment
  exact listTokens_of_working { environment with colour := false } source

end Cli

end TapeMachine
