import TapeMachine.Cli.Arguments

/-! Asking for a dump on the command line. Reading an argument looks at whether a dump was asked
for only if it asks for one itself, so the flag can be put wherever an option can stand, and it
changes nothing else of what is asked for.
-/

namespace TapeMachine.Cli

def Given.withDump (given : Given) : Given :=
  { given with dump := true }

namespace Pending

/-- The options that have been given so far. -/
def given : Pending → Given
  | .nothing given => given
  | .valueOf _ given => given

def withDump : Pending → Pending
  | .nothing given => .nothing given.withDump
  | .valueOf setting given => .valueOf setting given.withDump

end Pending

/-- The same request, with or without a dump. -/
def Request.setDump (dump : Bool) : Request → Request
  | .execute options => .execute { options with dump := dump }
  | .help form => .help form
  | .version => .version
  | .usageError => .usageError

-----------------------------------------------------------------------------------------
-- One argument
-----------------------------------------------------------------------------------------

/-- What is absent at the end and is never given up was absent before. -/
theorem eq_false_of_keeps {before after : Bool} (keeps : before = true → after = true)
    (absent : after = false)
    : before = false := by
  cases before with
  | false => rfl
  | true => exact (keeps rfl).symm.trans absent

/-- A way of reading an argument that never completes a request by itself, does not forget that a
dump was asked for, and does the same behind that, unless it asks for a dump too.
-/
structure Oblivious (read : Given → Except Request Pending) : Prop where
  incomplete : ∀ given options, read given ≠ .error (.execute options)
  keeps
    : ∀ {given pending},
        read given = .ok pending → given.dump = true → pending.given.dump = true
  adds
    : ∀ {given pending},
        read given = .ok pending
        → pending.given.dump = false
        → read given.withDump = .ok pending.withDump

theorem oblivious_usageError
    : Oblivious (fun _ => .error .usageError) := by
  refine ⟨?_, ?_, ?_⟩
  · intro given options same
    cases same
  · intro given pending same
    cases same
  · intro given pending same
    cases same

theorem oblivious_nothing
    : Oblivious (fun given => .ok (.nothing given)) := by
  refine ⟨?_, ?_, ?_⟩
  · intro given options same
    cases same
  · intro given pending same dumps
    cases same
    exact dumps
  · intro given pending same _
    cases same
    rfl

theorem oblivious_valueOf (setting : Setting)
    : Oblivious (fun given => .ok (.valueOf setting given)) := by
  refine ⟨?_, ?_, ?_⟩
  · intro given options same
    cases same
  · intro given pending same dumps
    cases same
    exact dumps
  · intro given pending same _
    cases same
    rfl

/-- Values of options and the dump do not touch each other. -/
theorem set_withDump {given after : Given} {setting : Setting} {text : String}
    (assigned : given.set setting text = some after)
    : after.dump = given.dump ∧ given.withDump.set setting text = some after.withDump := by
  cases setting <;>
    (obtain ⟨value, first, rfl⟩ := Option.map_eq_some_iff.mp assigned
     exact ⟨rfl, Option.map_eq_some_iff.mpr ⟨value, first, rfl⟩⟩)

theorem setFile_withDump {given after : Given} {path : String}
    (named : given.setFile path = some after)
    : after.dump = given.dump ∧ given.withDump.setFile path = some after.withDump := by
  obtain ⟨file, first, rfl⟩ := Option.map_eq_some_iff.mp named
  exact ⟨rfl, Option.map_eq_some_iff.mpr ⟨file, first, rfl⟩⟩

theorem assign_withDump {given after : Given} {setting : Setting} {text : String}
    (assigned : given.assign setting text = .ok after)
    : after.dump = given.dump ∧ given.withDump.assign setting text = .ok after.withDump := by
  unfold Given.assign at assigned ⊢
  cases set : given.set setting text with
  | none =>
      rw [set] at assigned
      cases assigned
  | some changed =>
      rw [set] at assigned
      cases assigned
      obtain ⟨same, alsoSet⟩ := set_withDump set
      rw [alsoSet]
      exact ⟨same, rfl⟩

theorem oblivious_assign (setting : Setting) (text : String)
    : Oblivious (fun given => (given.assign setting text).map .nothing) := by
  refine ⟨?_, ?_, ?_⟩
  · intro given options same
    unfold Given.assign at same
    split at same <;> cases same
  · intro given pending same dumps
    cases assigned : given.assign setting text with
    | error request =>
        rw [assigned] at same
        cases same
    | ok after =>
        rw [assigned] at same
        cases same
        exact (assign_withDump assigned).1.trans dumps
  · intro given pending same _
    cases assigned : given.assign setting text with
    | error request =>
        rw [assigned] at same
        cases same
    | ok after =>
        rw [assigned] at same
        cases same
        rw [(assign_withDump assigned).2]
        rfl

/-- A flag leaves a dump that was asked for, and looks at it only if it asks for one itself. -/
theorem raise_withDump {given after : Given} {flag : Flag}
    (raised : given.raise flag = .ok after)
    : (given.dump = true → after.dump = true)
      ∧ (after.dump = false → given.withDump.raise flag = .ok after.withDump) := by
  cases flag with
  | help | version => cases raised
  | dump =>
      simp only [Given.raise] at raised
      split at raised
      · cases raised
      · cases raised
        exact ⟨fun _ => rfl, nofun⟩
  | tokens =>
      simp only [Given.raise] at raised ⊢
      split at raised
      · cases raised
      · rename_i fresh
        cases raised
        exact ⟨id, fun _ => if_neg fresh⟩

theorem raise_incomplete (given : Given) (flag : Flag) (options : Options)
    : given.raise flag ≠ .error (.execute options) := by
  intro same
  cases flag with
  | help | version => cases same
  | dump | tokens =>
      simp only [Given.raise] at same
      split at same <;> cases same

/-- Reading on behind a flag. -/
theorem Oblivious.behind_flag {read : Given → Except Request Pending} (oblivious : Oblivious read)
    (flag : Flag)
    : Oblivious (fun given =>
        match given.raise flag with
        | .ok given => read given
        | .error request => .error request) := by
  refine ⟨?_, ?_, ?_⟩
  · intro given options same
    cases raised : given.raise flag with
    | error request =>
        simp only [raised, Except.error.injEq] at same
        exact raise_incomplete given flag options (same ▸ raised)
    | ok after =>
        simp only [raised] at same
        exact oblivious.incomplete after options same
  · intro given pending same dumps
    cases raised : given.raise flag with
    | error request =>
        simp only [raised] at same
        cases same
    | ok after =>
        simp only [raised] at same
        exact oblivious.keeps same ((raise_withDump raised).1 dumps)
  · intro given pending same absent
    cases raised : given.raise flag with
    | error request =>
        simp only [raised] at same
        cases same
    | ok after =>
        simp only [raised] at same
        have fresh := eq_false_of_keeps (oblivious.keeps same) absent
        simp only [(raise_withDump raised).2 fresh]
        exact oblivious.adds same absent

theorem oblivious_readLong (text : List Char)
    : Oblivious (readLong · text) := by
  simp only [readLong]
  split
  · exact oblivious_usageError
  · rename_i flag _ _
    have flagged : (fun given => (Given.raise given flag).map Pending.nothing)
        = fun given =>
            match given.raise flag with
            | .ok given => .ok (.nothing given)
            | .error request => .error request := by
      funext given
      cases given.raise flag <;> rfl
    rw [flagged]
    exact oblivious_nothing.behind_flag flag
  · exact oblivious_usageError
  · exact oblivious_valueOf _
  · exact oblivious_assign _ _

theorem oblivious_readShort (text : List Char)
    : Oblivious (readShort · text) := by
  induction text with
  | nil => exact oblivious_nothing
  | cons c rest ih =>
      simp only [readShort]
      split
      · exact oblivious_usageError
      · exact ih.behind_flag _
      · split
        · exact oblivious_valueOf _
        · exact oblivious_assign _ _

theorem oblivious_setFile (path : String)
    : Oblivious (fun given =>
        match given.setFile path with
        | some given => .ok (.nothing given)
        | none => .error .usageError) := by
  refine ⟨?_, ?_, ?_⟩
  · intro given options same
    split at same <;> cases same
  · intro given pending same dumps
    split at same
    · rename_i after named
      cases same
      exact (setFile_withDump named).1.trans dumps
    · cases same
  · intro given pending same _
    split at same
    · rename_i after named
      cases same
      rw [(setFile_withDump named).2]
      rfl
    · cases same

theorem oblivious_readArgument (argument : String)
    : Oblivious (readArgument · argument) := by
  simp only [readArgument]
  split
  · exact oblivious_readLong _
  · exact oblivious_readShort _
  · exact oblivious_setFile argument

-----------------------------------------------------------------------------------------
-- The rest of the command line
-----------------------------------------------------------------------------------------

theorem readFiles_withDump {given : Given} {arguments : List String} {options : Options}
    (asked : readFiles given arguments = .execute options)
    : (given.dump = true → options.dump = true)
      ∧ readFiles given.withDump arguments = .execute { options with dump := true } := by
  induction arguments generalizing given with
  | nil =>
      cases asked
      exact ⟨id, rfl⟩
  | cons path rest ih =>
      cases named : given.setFile path with
      | none =>
          simp only [readFiles, named] at asked
          cases asked
      | some after =>
          simp only [readFiles, named] at asked
          obtain ⟨kept, alsoNamed⟩ := setFile_withDump named
          obtain ⟨keeps, adds⟩ := ih asked
          exact ⟨fun dumps => keeps (kept.trans dumps), by simp only [readFiles, alsoNamed, adds]⟩

/-- A command line that does not ask for a dump is read in the same way behind one that does, by
induction on its arguments.
-/
theorem readFrom_withDump {pending : Pending} {arguments : List String} {options : Options}
    (asked : readFrom pending arguments = .execute options)
    : (pending.given.dump = true → options.dump = true)
      ∧ (options.dump = false
        → readFrom pending.withDump arguments = .execute { options with dump := true }) := by
  induction arguments generalizing pending with
  | nil =>
      cases pending with
      | valueOf setting given => cases asked
      | nothing given =>
          cases asked
          exact ⟨id, fun _ => rfl⟩
  | cons argument rest ih =>
      cases pending with
      | valueOf setting given =>
          cases assigned : given.assign setting argument with
          | error request =>
              simp only [readFrom, assigned] at asked
              exact absurd (by rw [assigned, asked]; rfl)
                ((oblivious_assign setting argument).incomplete given options)
          | ok after =>
              simp only [readFrom, assigned] at asked
              obtain ⟨kept, alsoAssigned⟩ := assign_withDump assigned
              obtain ⟨keeps, adds⟩ := ih asked
              refine ⟨fun dumps => keeps (kept.trans dumps), fun absent => ?_⟩
              simp only [Pending.withDump, readFrom, alsoAssigned]
              exact adds absent
      | nothing given =>
          by_cases files : argument = "--"
          · simp only [readFrom, files, if_true] at asked
            obtain ⟨keeps, adds⟩ := readFiles_withDump asked
            refine ⟨keeps, fun _ => ?_⟩
            simp only [Pending.withDump, readFrom, files, if_true]
            exact adds
          · have oblivious := oblivious_readArgument argument
            cases taken : readArgument given argument with
            | error request =>
                simp only [readFrom, if_neg files, taken] at asked
                exact absurd (by rw [taken, asked]) (oblivious.incomplete given options)
            | ok next =>
                simp only [readFrom, if_neg files, taken] at asked
                obtain ⟨keeps, adds⟩ := ih asked
                refine ⟨fun dumps => keeps (oblivious.keeps taken dumps), fun absent => ?_⟩
                have fresh := eq_false_of_keeps keeps absent
                simp only [Pending.withDump, readFrom, if_neg files, oblivious.adds taken fresh]
                exact adds absent

/-- Behind a command line that is complete, and in which options have not been ended, reading goes
on with what it has given.
-/
theorem readFrom_append {pending : Pending} {arguments : List String} {options : Options}
    (asked : readFrom pending arguments = .execute options) (unended : "--" ∉ arguments)
    : ∃ given, ∀ further,
        readFrom pending (arguments ++ further) = readFrom (.nothing given) further := by
  induction arguments generalizing pending with
  | nil =>
      cases pending with
      | valueOf setting given => cases asked
      | nothing given => exact ⟨given, fun further => rfl⟩
  | cons argument rest ih =>
      have notEnd : argument ≠ "--" := fun same => unended (same ▸ List.mem_cons_self)
      have later : "--" ∉ rest := fun member => unended (List.mem_cons_of_mem _ member)
      cases pending with
      | valueOf setting given =>
          cases assigned : given.assign setting argument with
          | error request =>
              simp only [readFrom, assigned] at asked
              exact absurd (by rw [assigned, asked]; rfl)
                ((oblivious_assign setting argument).incomplete given options)
          | ok after =>
              simp only [readFrom, assigned] at asked
              obtain ⟨reached, behind⟩ := ih asked later
              refine ⟨reached, fun further => ?_⟩
              simp only [List.cons_append, readFrom, assigned]
              exact behind further
      | nothing given =>
          cases taken : readArgument given argument with
          | error request =>
              simp only [readFrom, if_neg notEnd, taken] at asked
              exact absurd (by rw [taken, asked])
                ((oblivious_readArgument argument).incomplete given options)
          | ok next =>
              simp only [readFrom, if_neg notEnd, taken] at asked
              obtain ⟨reached, behind⟩ := ih asked later
              refine ⟨reached, fun further => ?_⟩
              simp only [List.cons_append, readFrom, if_neg notEnd, taken]
              exact behind further

/-- The two ways to ask for a dump. -/
def dumpFlags : List String := ["--dump", "-d"]

theorem readFrom_dumpFlag {flag : String} (known : flag ∈ dumpFlags) {given : Given}
    (fresh : given.dump = false) (further : List String)
    : readFrom (.nothing given) (flag :: further) = readFrom (.nothing given.withDump) further := by
  have raised : given.raise .dump = .ok given.withDump := by
    simp only [Given.raise, fresh, Bool.false_eq_true, if_false, Given.withDump]
  have taken : readArgument given flag = .ok (.nothing given.withDump) := by
    have long : readArgument given "--dump" = (given.raise .dump).map .nothing := rfl
    have short : readArgument given "-d"
        = match given.raise .dump with
          | .ok given => .ok (.nothing given)
          | .error request => .error request := rfl
    simp only [dumpFlags, List.mem_cons, List.not_mem_nil, or_false] at known
    rcases known with rfl | rfl
    · rw [long, raised]
      rfl
    · rw [short, raised]
  have option : flag ≠ "--" := by
    rintro rfl
    revert known
    decide
  simp only [readFrom, if_neg option, taken]

/-- A dump can be asked for wherever an option can stand, and nothing else changes. -/
theorem ofArguments_insert_dumpFlag {before after : List String} {flag : String}
    {given options : Options} (known : flag ∈ dumpFlags)
    (complete : Request.ofArguments before = .execute given) (unended : "--" ∉ before)
    (asked : Request.ofArguments (before ++ after) = .execute options)
    (absent : options.dump = false)
    : Request.ofArguments (before ++ flag :: after) = .execute { options with dump := true } := by
  obtain ⟨reached, behind⟩ := readFrom_append complete unended
  simp only [Request.ofArguments] at asked ⊢
  rw [behind] at asked ⊢
  obtain ⟨keeps, adds⟩ := readFrom_withDump asked
  have fresh : reached.dump = false := eq_false_of_keeps keeps absent
  rw [readFrom_dumpFlag known fresh]
  exact adds absent

end TapeMachine.Cli
