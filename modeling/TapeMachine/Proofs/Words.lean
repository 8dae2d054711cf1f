import TapeMachine.Text.Space
import TapeMachine.Text.Utf8

/-! Words and lines of a text. White space separates the words, so that they can be found on both
sides of it on their own; a newline is white space, and its byte is found nowhere else among the
bytes of a text.
-/

namespace TapeMachine.Text

-----------------------------------------------------------------------------------------
-- Words
-----------------------------------------------------------------------------------------

/-- A search that something ends does not look behind it. -/
theorem span_stop {α : Type} {p : α → Bool} {x : α} (stops : p x = false) (front rest : List α)
    : (front ++ x :: rest).takeWhile p = front.takeWhile p
      ∧ (front ++ x :: rest).dropWhile p = front.dropWhile p ++ x :: rest := by
  induction front with
  | nil => simp [stops]
  | cons y front ih =>
      cases holds : p y with
      | true => simp [holds, ih]
      | false => simp [holds]

theorem words_of_nil {text : List Char} (blank : text.dropWhile isSpace = [])
    : words text = [] := by
  rw [words]
  split
  · rfl
  · rename_i start
    rw [blank] at start
    cases start

theorem words_of_cons {text rest : List Char} {c : Char}
    (start : text.dropWhile isSpace = c :: rest)
    : words text
      = (c :: rest.takeWhile (fun x => !isSpace x))
          :: words (rest.dropWhile (fun x => !isSpace x)) := by
  rw [words]
  split
  · rename_i blank
    rw [start] at blank
    cases blank
  · rename_i same
    rw [start] at same
    cases same
    rfl

/-- White space at the front of a text makes no difference to its words. -/
theorem words_congr {first second : List Char}
    (same : first.dropWhile isSpace = second.dropWhile isSpace)
    : words first = words second := by
  cases start : second.dropWhile isSpace with
  | nil => rw [words_of_nil start, words_of_nil (same.trans start)]
  | cons c rest => rw [words_of_cons start, words_of_cons (same.trans start)]

/-- White space ends a word: the words before it and those behind it are found on their own. -/
theorem words_append {c : Char} (space : isSpace c = true) (first second : List Char)
    : words (first ++ c :: second) = words first ++ words second := by
  fun_induction words first with
  | case1 first blank =>
      apply words_congr
      rw [List.dropWhile_append, blank]
      exact List.dropWhile_cons_of_pos space
  | case2 first d rest start ih =>
      have begins : (first ++ c :: second).dropWhile isSpace = d :: (rest ++ c :: second) := by
        rw [List.dropWhile_append, start]
        rfl
      have stops : (fun x => !isSpace x) c = false := congrArg not space
      obtain ⟨taken, left⟩ := span_stop (p := fun x => !isSpace x) stops rest second
      rw [words_of_cons begins, taken, left, ih]
      rfl

theorem words_of_solid {text : List Char} (solid : ∀ c ∈ text, isSpace c = false)
    : words text = [text].filter (· ≠ []) := by
  cases text with
  | nil => exact words_of_nil rfl
  | cons c rest =>
      have start : (c :: rest).dropWhile isSpace = c :: rest :=
        List.dropWhile_cons_of_neg (Bool.not_eq_true _ ▸ solid c List.mem_cons_self)
      have inside : ∀ x ∈ rest, (!isSpace x) = true := fun x member =>
        congrArg not (solid x (List.mem_cons_of_mem c member))
      obtain ⟨taken, left⟩ := @span_append _ _ _ [] inside nofun
      rw [List.append_nil] at taken left
      rw [words_of_cons start, taken, left, words_of_nil rfl]
      rfl

/-- The words are what white space separates, but for what is empty. The induction is on the text
behind a word that may go on.
-/
theorem words_append_eq_splitOnP {front : List Char} (solid : ∀ c ∈ front, isSpace c = false)
    (text : List Char)
    : words (front ++ text) = ((front ++ text).splitOnP isSpace).filter (· ≠ []) := by
  induction text generalizing front with
  | nil => rw [List.append_nil, words_of_solid solid, List.splitOnP_eq_singleton solid]
  | cons c text ih =>
      cases space : isSpace c with
      | true =>
          have rest : words text = (text.splitOnP isSpace).filter (· ≠ []) := @ih [] nofun
          rw [words_append space, words_of_solid solid, rest,
            List.splitOnP_append_cons_of_forall_mem solid c space, ← List.filter_append,
            List.singleton_append]
      | false =>
          have longer : ∀ x ∈ front ++ [c], isSpace x = false := by
            intro x member
            rcases List.mem_append.mp member with before | last
            · exact solid x before
            · rw [List.mem_singleton.mp last, space]
          have whole := ih longer
          rwa [List.append_assoc] at whole

theorem words_eq_splitOnP (text : List Char)
    : words text = (text.splitOnP isSpace).filter (· ≠ []) :=
  @words_append_eq_splitOnP [] nofun text

-----------------------------------------------------------------------------------------
-- Bytes
-----------------------------------------------------------------------------------------

theorem encode_ofList (text : List Char)
    : encode (String.ofList text) = text.flatMap String.utf8EncodeChar := by
  rw [encode, toList_eq, String.toUTF8, String.toByteArray_ofList, List.utf8Encode]
  exact List.toList_data_toByteArray

/-- Bytes are decoded to a text exactly if it has these bytes. -/
theorem decode?_eq_some_iff {bytes : List UInt8} {text : String}
    : decode? bytes = some text ↔ bytes = encode text := by
  unfold decode? String.fromUTF8? encode
  constructor
  · intro decoded
    split at decoded
    · cases decoded
      rw [toList_eq, String.toUTF8]
      exact List.toList_data_toByteArray.symm
    · cases decoded
  · rintro rfl
    have whole : text.toUTF8.toList.toByteArray = text.toUTF8 := by
      rw [toList_eq]
      exact ByteArray.ext List.data_toByteArray
    rw [whole]
    exact dif_pos text.isValidUTF8

/-- A character behind ASCII has no byte of an ASCII character. -/
theorem high_of_mem_utf8EncodeChar {c : Char} (long : ¬ c.val.toNat ≤ 0x7F)
    : ∀ b ∈ String.utf8EncodeChar c, 0x7F < b.toNat := by
  simp only [String.utf8EncodeChar, if_neg long]
  repeat' split
  all_goals
    simp only [List.forall_mem_cons, List.not_mem_nil, false_implies, implies_true, and_true,
      UInt8.toNat_ofNat']
    omega

/-- The byte of a newline is in no other character. -/
theorem eq_newline_of_mem_utf8EncodeChar {c : Char}
    (found : (0x0A : UInt8) ∈ String.utf8EncodeChar c)
    : c = '\n' := by
  by_cases ascii : c.val.toNat ≤ 0x7F
  · simp only [String.utf8EncodeChar, if_pos ascii, List.mem_singleton] at found
    have code := congrArg UInt8.toNat found
    rw [UInt8.toNat_ofNat', Nat.mod_eq_of_lt (by omega)] at code
    exact Char.ext (UInt32.toNat_inj.mp code.symm)
  · exact absurd (high_of_mem_utf8EncodeChar ascii _ found) (by decide)

end TapeMachine.Text
