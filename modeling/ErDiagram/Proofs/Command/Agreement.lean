import ErDiagram.Command.Steps

/-!
# Commands and the functions behind them

A command reads at most one input. Of the text that it reads it writes what the function behind it gives,
and it fails for one of six causes: a name or an input that is of no use, or a text that the function
refuses. It writes as it goes, but each of its failures comes before the first step that writes.
-/

namespace ErDiagram

set_option autoImplicit false

/-- How a command ends whose inputs are at hand. -/
def endingOn (read : Input → Except ReadFault String) (command : Command) : Ending :=
  command.ending (m := Id) read

/-- What the steps come to and what has been written then, where the streams had been written before. -/
def Steps.after {m : Type → Type} {α : Type} (steps : Steps m α) (streams : Streams) :
    m (Except CommandError α × Streams) := steps.run.run streams

/-- The command succeeds and writes the text. -/
def Ending.Writes (ending : Ending) (text : String) : Prop :=
  ending.status = 0 ∧ ending.output = text

namespace Command

/-- The input that a command reads. With an unknown name it reads none. -/
def source? : Command → Option Input
  | makeMarkup file mode _ => (Dialect.ofName? mode).map fun _ => .ofFile file
  | listSchema file format _ _ => (ListingFormat.ofName? format).map fun _ => .ofFile file
  | checkMarkup file => some (.ofFile file)
  | algebraOfSql _ | sqlOfAlgebra _ => none

/-- Why a command fails. -/
inductive FailsBy (read : Input → Except ReadFault String) : Command → CommandError → Prop
  | unknownMode {file : Option String} {mode : String} {maxLines : Option Nat}
    (unknown : Dialect.ofName? mode = none) :
    FailsBy read (makeMarkup file mode maxLines) (.unknownMode mode)
  | unknownFormat {file : Option String} {format : String} {noAttributes noCardinalities : Bool}
    (unknown : ListingFormat.ofName? format = none) :
    FailsBy read (listSchema file format noAttributes noCardinalities) (.unknownFormat format)
  | unreadable {command : Command} {input : Input} {fault : ReadFault}
    (reads : command.source? = some input) (failed : read input = .error fault) :
    FailsBy read command (.unreadable input fault)
  | refused {file : Option String} {mode description : String} {maxLines : Option Nat}
    {dialect : Dialect} {fault : ReadingError} (known : Dialect.ofName? mode = some dialect)
    (readable : read (.ofFile file) = .ok description)
    (refused : readDescription dialect { maxLines } description = .error fault) :
    FailsBy read (makeMarkup file mode maxLines) (.reading fault)
  | broken {file : Option String} {name script : String} {noAttributes noCardinalities : Bool}
    {format : ListingFormat} {fault : Script.ScriptError}
    (known : ListingFormat.ofName? name = some format)
    (readable : read (.ofFile file) = .ok script) (broken : Script.schemaOf script = .error fault) :
    FailsBy read (listSchema file name noAttributes noCardinalities) (.script fault)
  | unusable {file : Option String} {markup : String} (readable : read (.ofFile file) = .ok markup)
    (missing : (Verdict.ofMarkup markup).isUsable = false) :
    FailsBy read (checkMarkup file) (.unusable (Verdict.ofMarkup markup))

end Command

section Steps

variable {m : Type → Type} [Monad m] {ε α β : Type} {streams : Streams}

theorem after_bind [LawfulMonad m] (first : Steps m α) (next : α → Steps m β) :
    (first >>= next).after streams = first.after streams >>= fun (found, written) =>
      match found with
      | .ok value => (next value).after written
      | .error fault => pure (.error fault, written) := by
  rw [Steps.after, ExceptT.run_bind, StateT.run_bind]
  apply bind_congr
  rintro ⟨found, written⟩
  cases found <;> rfl

theorem after_throw (fault : CommandError) :
    (throw fault : Steps m α).after streams = pure (.error fault, streams) := rfl

variable [LawfulMonad m]

theorem after_throw_bind (fault : CommandError) (next : α → Steps m β) :
    (throw fault >>= next).after streams = pure (.error fault, streams) := by
  rw [after_bind, after_throw, pure_bind]

theorem after_write (text : String) :
    (write (m := m) text).after streams =
      pure (.ok (), { streams with output := streams.output ++ text }) := pure_bind _ _

theorem after_remark_bind (line : String) (next : Unit → Steps m α) :
    (remark line >>= next).after streams =
      (next ()).after { streams with errors := streams.errors ++ line ++ "\n" } := by
  have remarked : (remark (m := m) line).after streams =
      pure (.ok (), { streams with errors := streams.errors ++ line ++ "\n" }) := pure_bind _ _
  rw [after_bind, remarked, pure_bind]

theorem after_value_or_bind (cause : ε → CommandError) (result : Except ε α)
    (next : α → Steps m β) :
    (valueOr cause result >>= next).after streams =
      match result with
      | .ok value => (next value).after streams
      | .error fault => pure (.error (cause fault), streams) := by
  rw [after_bind]
  cases result with
  | ok value => exact pure_bind _ _
  | error fault => exact pure_bind _ _

theorem after_lift_bind (found : m α) (next : α → Steps m β) :
    (liftM found >>= next).after streams = found >>= fun value => (next value).after streams := by
  have lifted : (liftM found : Steps m α).after streams =
      (found >>= fun value => pure (value, streams)) >>= fun (value, written) =>
        pure (.ok value, written) := rfl
  rw [after_bind, lifted]
  simp only [bind_assoc, pure_bind]

theorem after_read_bind (read : Input → m (Except ReadFault String)) (file : Option String)
    (next : String → Steps m α) :
    (readText read file >>= next).after streams =
      read (.ofFile file) >>= fun found =>
        match found with
        | .ok text => (next text).after streams
        | .error fault => pure (.error (.unreadable (.ofFile file) fault), streams) := by
  simp only [readText, bind_assoc]
  rw [after_lift_bind]
  apply bind_congr
  intro found
  rw [after_value_or_bind]
  cases found <;> rfl

end Steps

section Runs

variable {read : Input → Except ReadFault String} {streams : Streams} {file : Option String}
  {mode name : String} {maxLines : Option Nat} {noAttributes noCardinalities : Bool}

theorem after_read_of_text {α : Type} {text : String} (readable : read (.ofFile file) = .ok text)
    (next : String → Steps Id α) :
    (readText (m := Id) read file >>= next).after streams = (next text).after streams := by
  rw [after_read_bind, readable]
  rfl

theorem after_read_of_fault {α : Type} {fault : ReadFault} (failed : read (.ofFile file) = .error fault)
    (next : String → Steps Id α) :
    (readText (m := Id) read file >>= next).after streams =
      (.error (.unreadable (.ofFile file) fault), streams) := by
  rw [after_read_bind, failed]
  rfl

theorem run_of_description {dialect : Dialect} {description : String}
    (known : Dialect.ofName? mode = some dialect) (readable : read (.ofFile file) = .ok description) :
    ((Command.makeMarkup file mode maxLines).run (m := Id) read).after streams =
      match readDescription dialect { maxLines } description with
      | .error fault => (.error (.reading fault), streams)
      | .ok document => (.ok (), { streams with output := streams.output ++ document.render }) := by
  simp only [Command.run, known]
  rw [after_read_of_text readable, after_value_or_bind]
  cases readDescription dialect { maxLines } description <;> rfl

theorem run_of_script {format : ListingFormat} {script : String}
    (known : ListingFormat.ofName? name = some format) (readable : read (.ofFile file) = .ok script) :
    ((Command.listSchema file name noAttributes noCardinalities).run (m := Id) read).after streams =
      match Script.schemaOf script with
      | .error fault => (.error (.script fault), streams)
      | .ok schema =>
        let listed := schema.listing format
          { attributes := !noAttributes, cardinalities := !noCardinalities }
        (.ok (), { streams with output := streams.output ++ (listed ++ "\n") }) := by
  simp only [Command.run, known]
  rw [after_read_of_text readable, after_value_or_bind]
  cases Script.schemaOf script <;> rfl

/-- The command tests and takes apart the verdict in steps of its own, and comes to what is drawable. -/
theorem run_of_markup {markup : String} (readable : read (.ofFile file) = .ok markup) :
    ((Command.checkMarkup file).run (m := Id) read).after streams =
      let verdict := Verdict.ofMarkup markup
      match drawable markup with
      | .error _ => (.error (.unusable verdict), streams)
      | .ok text =>
        (.ok (), {
          output := streams.output ++ text
          errors := streams.errors ++ verdict.message ++ "\n" }) := by
  rw [Command.run, after_read_of_text readable]
  dsimp only [drawable]
  cases Verdict.ofMarkup markup <;> rfl

theorem run_of_unreadable {command : Command} {input : Input} {reason : ReadFault}
    (reads : command.source? = some input) (failed : read input = .error reason) :
    (command.run (m := Id) read).after streams = (.error (.unreadable input reason), streams) := by
  cases command with
  | makeMarkup file mode maxLines =>
      obtain ⟨dialect, known, rfl⟩ := Option.map_eq_some_iff.mp reads
      simp only [Command.run, known]
      exact after_read_of_fault failed _
  | listSchema file name noAttributes noCardinalities =>
      obtain ⟨format, known, rfl⟩ := Option.map_eq_some_iff.mp reads
      simp only [Command.run, known]
      exact after_read_of_fault failed _
  | algebraOfSql query => contradiction
  | sqlOfAlgebra expression => contradiction
  | checkMarkup file =>
      cases reads
      exact after_read_of_fault failed _

end Runs

/-- Where the steps after it do the same in `Id`, only the reading itself is done in another monad. -/
theorem after_read_in_monad {m : Type → Type} [Monad m] [LawfulMonad m] {α : Type} {streams : Streams}
    (read : Input → m (Except ReadFault String)) (file : Option String)
    {next : String → Steps m α} {nextAtHand : String → Steps Id α}
    (same : ∀ text, (next text).after streams = pure ((nextAtHand text).after streams)) :
    (readText read file >>= next).after streams = read (.ofFile file) >>= fun found =>
      pure ((readText (m := Id) (fun _ => found) file >>= nextAtHand).after streams) := by
  rw [after_read_bind]
  apply bind_congr
  intro found
  cases found with
  | error fault => rfl
  | ok text =>
      rw [after_read_of_text rfl]
      exact same text

/-- A command reads its source once and nothing else, and what it finds there decides what it does. -/
theorem run_of_source {m : Type → Type} [Monad m] [LawfulMonad m]
    (read : Input → m (Except ReadFault String)) (command : Command) (streams : Streams) :
    (command.run read).after streams =
      match command.source? with
      | none => pure ((command.run (m := Id) fun _ => .error .notText).after streams)
      | some input => read input >>= fun found =>
        pure ((command.run (m := Id) fun _ => found).after streams) := by
  cases command with
  | makeMarkup file mode maxLines =>
      cases known : Dialect.ofName? mode with
      | none =>
          simp only [Command.run, Command.source?, known]
          rfl
      | some dialect =>
          simp only [Command.run, Command.source?, known, Option.map_some]
          apply after_read_in_monad
          intro description
          rw [after_value_or_bind, after_value_or_bind]
          cases readDescription dialect { maxLines } description with
          | error fault => rfl
          | ok document => exact after_write document.render
  | listSchema file name noAttributes noCardinalities =>
      cases known : ListingFormat.ofName? name with
      | none =>
          simp only [Command.run, Command.source?, known]
          rfl
      | some format =>
          simp only [Command.run, Command.source?, known, Option.map_some]
          apply after_read_in_monad
          intro script
          rw [after_value_or_bind, after_value_or_bind]
          cases Script.schemaOf script with
          | error fault => rfl
          | ok schema => exact after_write _
  | algebraOfSql query => exact after_write _
  | sqlOfAlgebra expression => exact after_write _
  | checkMarkup file =>
      apply after_read_in_monad
      intro markup
      cases Verdict.ofMarkup markup with
      | valid => exact (after_remark_bind _ _).trans (after_write _)
      | corrected better => exact (after_remark_bind _ _).trans (after_write _)
      | noEntities => exact after_throw_bind _ _

theorem ending_of_source {m : Type → Type} [Monad m] [LawfulMonad m]
    (read : Input → m (Except ReadFault String)) (command : Command) :
    command.ending read =
      match command.source? with
      | none => pure (endingOn (fun _ => .error .notText) command)
      | some input => (fun found => endingOn (fun _ => found) command) <$> read input := by
  have ended : command.ending read = Ending.ofRun <$> (command.run read).after {} := rfl
  rw [ended, run_of_source]
  cases command.source? with
  | none => exact map_pure _ _
  | some input =>
      dsimp only
      rw [map_bind, ← bind_pure_comp]
      apply bind_congr
      intro found
      exact map_pure _ _

section Endings

variable {read : Input → Except ReadFault String} {streams : Streams} {command : Command}
  {fault : CommandError} {file : Option String} {mode name : String} {maxLines : Option Nat}

theorem drawable_eq_error_iff {markup message : String} :
    drawable markup = .error message ↔
      (Verdict.ofMarkup markup).isUsable = false ∧ (Verdict.ofMarkup markup).message = message := by
  dsimp only [drawable]
  cases Verdict.ofMarkup markup <;> simp [Verdict.isUsable]

theorem drawable_of_unusable {markup : String} (missing : (Verdict.ofMarkup markup).isUsable = false) :
    drawable markup = .error (Verdict.ofMarkup markup).message := drawable_eq_error_iff.mpr ⟨missing, rfl⟩

/-- Whatever makes a command fail does so before the command writes. -/
theorem after_of_fails_by (fails : command.FailsBy read fault) :
    (command.run (m := Id) read).after streams = (.error fault, streams) := by
  cases fails with
  | unknownMode unknown =>
      simp only [Command.run, unknown]
      rfl
  | unknownFormat unknown =>
      simp only [Command.run, unknown]
      rfl
  | unreadable reads failed => exact run_of_unreadable reads failed
  | refused known readable refused => rw [run_of_description known readable, refused]
  | broken known readable broken => rw [run_of_script known readable, broken]
  | unusable readable missing => rw [run_of_markup readable, drawable_of_unusable missing]

theorem fails_by_or_succeeds (read : Input → Except ReadFault String) (command : Command)
    (streams : Streams) :
    (∃ fault, command.FailsBy read fault) ∨
      ∃ written, (command.run (m := Id) read).after streams = (.ok (), written) := by
  cases command with
  | makeMarkup file mode maxLines =>
      cases known : Dialect.ofName? mode with
      | none => exact .inl ⟨_, .unknownMode known⟩
      | some dialect =>
          cases found : read (.ofFile file) with
          | error reason =>
              have reads : (Command.makeMarkup file mode maxLines).source? = some (.ofFile file) :=
                Option.map_eq_some_iff.mpr ⟨dialect, known, rfl⟩
              exact .inl ⟨_, .unreadable reads found⟩
          | ok description =>
              cases drawn : readDescription dialect { maxLines } description with
              | error refusal => exact .inl ⟨_, .refused known found drawn⟩
              | ok document => exact .inr ⟨_, by rw [run_of_description known found, drawn]⟩
  | listSchema file name noAttributes noCardinalities =>
      cases known : ListingFormat.ofName? name with
      | none => exact .inl ⟨_, .unknownFormat known⟩
      | some format =>
          cases found : read (.ofFile file) with
          | error reason =>
              have reads : (Command.listSchema file name noAttributes noCardinalities).source? =
                some (.ofFile file) := Option.map_eq_some_iff.mpr ⟨format, known, rfl⟩
              exact .inl ⟨_, .unreadable reads found⟩
          | ok script =>
              cases understood : Script.schemaOf script with
              | error fault => exact .inl ⟨_, .broken known found understood⟩
              | ok schema => exact .inr ⟨_, by rw [run_of_script known found, understood]⟩
  | algebraOfSql query => exact .inr ⟨_, rfl⟩
  | sqlOfAlgebra expression => exact .inr ⟨_, rfl⟩
  | checkMarkup file =>
      cases found : read (.ofFile file) with
      | error reason => exact .inl ⟨_, .unreadable rfl found⟩
      | ok markup =>
          cases drawn : drawable markup with
          | error message => exact .inl ⟨_, .unusable found (drawable_eq_error_iff.mp drawn).1⟩
          | ok text => exact .inr ⟨_, by rw [run_of_markup found, drawn]⟩

theorem ending_eq (read : Input → Except ReadFault String) (command : Command) :
    endingOn read command = .ofRun ((command.run (m := Id) read).after {}) := rfl

theorem ending_of_fails_by (fails : command.FailsBy read fault) :
    endingOn read command = { status := 1, errors := "ERROR: " ++ fault.message ++ "\n" } := by
  rw [ending_eq, after_of_fails_by fails, Ending.ofRun, String.empty_append]

theorem run_fails_iff :
    (endingOn read command).status = 1 ↔ ∃ fault, command.FailsBy read fault := by
  constructor
  · intro failed
    obtain fails | ⟨written, ended⟩ := fails_by_or_succeeds read command {}
    · exact fails
    · rw [ending_eq, ended] at failed
      contradiction
  · rintro ⟨fault, fails⟩
    rw [ending_of_fails_by fails]

theorem failed_run_writes_nothing (failed : (endingOn read command).status = 1) :
    (endingOn read command).output = "" := by
  obtain ⟨fault, fails⟩ := run_fails_iff.mp failed
  rw [ending_of_fails_by fails]

theorem writes_of_success_iff {written : Streams} {text : String} :
    (Ending.ofRun (.ok (), written)).Writes text ↔ written.output = text := by
  simp [Ending.Writes, Ending.ofRun]

theorem not_writes_of_fault {written : Streams} (text : String) :
    ¬ (Ending.ofRun (.error fault, written)).Writes text := by
  simp [Ending.Writes, Ending.ofRun]

theorem run_writes_markup_iff {description markup : String}
    (readable : read (.ofFile file) = .ok description) :
    (endingOn read (.makeMarkup file mode maxLines)).Writes markup ↔
      ∃ dialect, Dialect.ofName? mode = some dialect ∧
        markup? dialect { maxLines } description = some markup := by
  rw [ending_eq]
  cases known : Dialect.ofName? mode with
  | none =>
      rw [after_of_fails_by (.unknownMode known)]
      simp [not_writes_of_fault]
  | some dialect =>
      rw [run_of_description known readable]
      cases drawn : readDescription dialect { maxLines } description with
      | ok document => simp [writes_of_success_iff, markup?, drawn]
      | error refusal => simp [not_writes_of_fault, markup?, drawn]

theorem run_writes_listing_iff {script text : String}
    (readable : read (.ofFile file) = .ok script) :
    (endingOn read (.listSchema file name false false)).Writes (text ++ "\n") ↔
      Script.listingByName (some name) script = .ok text := by
  rw [ending_eq]
  cases known : ListingFormat.ofName? name with
  | none =>
      rw [after_of_fails_by (.unknownFormat known)]
      simp [not_writes_of_fault, Script.listingByName, known]
  | some format =>
      rw [run_of_script known readable]
      cases understood : Script.schemaOf script with
      | ok schema =>
          simp [writes_of_success_iff, Script.listingByName, Script.listing, known, understood]
      | error fault =>
          simp [not_writes_of_fault, Script.listingByName, Script.listing, known, understood]

theorem run_writes_drawable_iff {code text : String} (readable : read (.ofFile file) = .ok code) :
    (endingOn read (.checkMarkup file)).Writes text ↔ drawable code = .ok text := by
  rw [ending_eq, run_of_markup readable]
  cases drawn : drawable code with
  | error message => simp [not_writes_of_fault]
  | ok better => simp [writes_of_success_iff]

theorem run_finds_nothing_iff {code : String} (readable : read (.ofFile file) = .ok code) :
    (endingOn read (.checkMarkup file)).status = 1 ↔ ∃ message, drawable code = .error message := by
  rw [ending_eq, run_of_markup readable]
  cases drawn : drawable code with
  | error message => simp [Ending.ofRun]
  | ok better => simp [Ending.ofRun]

/-- A command writes the text of the function behind it and succeeds exactly if there is one, and a run
that fails writes nothing. -/
theorem runs_agree_with_functions (read : Input → Except ReadFault String) :
    (∀ file code, read (.ofFile file) = .ok code →
        (∀ text, (endingOn read (.checkMarkup file)).Writes text ↔ drawable code = .ok text) ∧
          ((endingOn read (.checkMarkup file)).status = 1 ↔
            ∃ message, drawable code = .error message)) ∧
      (∀ file name script, read (.ofFile file) = .ok script →
        ∀ text, (endingOn read (.listSchema file name false false)).Writes (text ++ "\n") ↔
          Script.listingByName (some name) script = .ok text) ∧
      (∀ file mode maxLines description, read (.ofFile file) = .ok description →
        ∀ markup, (endingOn read (.makeMarkup file mode maxLines)).Writes markup ↔
          ∃ dialect, Dialect.ofName? mode = some dialect ∧
            markup? dialect { maxLines } description = some markup) ∧
      (∀ query, (endingOn read (.algebraOfSql query)).Writes (algebraOfSql query ++ "\n")) ∧
      (∀ expression,
        (endingOn read (.sqlOfAlgebra expression)).Writes (sqlOfAlgebra expression ++ "\n")) ∧
      (∀ command, (endingOn read command).status = 1 ↔ ∃ fault, command.FailsBy read fault) ∧
      ∀ command, (endingOn read command).status = 1 → (endingOn read command).output = "" := by
  refine ⟨?_, ?_, ?_, ?_, ?_, fun _ => run_fails_iff, fun _ => failed_run_writes_nothing⟩
  · intro file code readable
    exact ⟨fun text => run_writes_drawable_iff readable, run_finds_nothing_iff readable⟩
  · intro file name script readable text
    exact run_writes_listing_iff readable
  · intro file mode maxLines description readable markup
    exact run_writes_markup_iff readable
  · intro query
    exact writes_of_success_iff.mpr String.empty_append
  · intro expression
    exact writes_of_success_iff.mpr String.empty_append

/-- Markup is corrected, an empty script is listed, and a description has more lines than it may have. -/
theorem runs_agree_on_users :
    let holding (text : String) : Input → Except ReadFault String := fun _ => .ok text
    let limited := endingOn (holding "users \x7b\n") (.makeMarkup none "er" (some 0))
    (endingOn (holding "users \x7b\n") (.checkMarkup none)).Writes "erDiagram\nusers \x7b\n" ∧
      (endingOn (holding "") (.listSchema (some "-") "Mermaid" false false)).Writes "erDiagram\n" ∧
      limited.status = 1 ∧ limited.output = "" := by
  intro holding limited
  have entityRelationship : Dialect.ofName? "er" = some .entityRelationship := by decide
  have refused : (Command.makeMarkup none "er" (some 0)).FailsBy (holding "users \x7b\n")
      (.reading (.tooManyLines 1 0)) := .refused entityRelationship (by rfl) (by rfl)
  obtain ⟨checks, -, -, -, -, fails, silent⟩ := runs_agree_with_functions (holding "users \x7b\n")
  obtain ⟨-, lists, -⟩ := runs_agree_with_functions (holding "")
  have failed := (fails _).mpr ⟨_, refused⟩
  have corrected : Verdict.ofMarkup "users \x7b\n" = .corrected "erDiagram\nusers \x7b\n" := by decide
  have named : ListingFormat.ofName? "Mermaid" = some .markup := by decide
  have undefined : Script.schemaOf "" = .ok {} := by
    rw [Script.schemaOf, Script.scan, String.toList_empty, Script.scanText, Script.schemaOfTokens,
      Script.declarations_nil]
    rfl
  refine ⟨?_, ?_, failed, silent _ failed⟩
  · apply ((checks none _ rfl).1 _).mpr
    rw [drawable, corrected]
    rfl
  · apply (lists (some "-") "Mermaid" _ rfl "erDiagram").mpr
    simp only [Script.listingByName, named, Script.listing, undefined]
    rfl

end Endings

end ErDiagram
