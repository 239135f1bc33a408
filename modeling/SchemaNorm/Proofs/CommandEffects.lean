import SchemaNorm.Proofs.FileEffects
import SchemaNorm.Cli.Run

/-!
What each command of the program leaves in the project's file tree. `summary`, `validate` and
`generate --stdout` only read. A `generate` that writes creates the output's missing
directories before it writes the file, so when the write fails the new directories stay. An
`init` writes the configuration first and then the example snapshot with its directory, so a
failure after the first write leaves the new configuration in place. Arguments that are not
accepted never reach the file system.
-/

namespace SchemaNorm

/-- Every run of the computation that ends in an error leaves a tree that `R` relates to the
one it started from. -/
def OnFailure {ε α : Type} (R : FileTree → FileTree → Prop) (x : StateM FileTree (Except ε α)) :
    Prop :=
  ∀ t : FileTree, ∀ e, (x.run t).1 = .error e → R t (x.run t).2

section Failures

variable {ε α β : Type} {R : FileTree → FileTree → Prop}

theorem AddsDirectories.onFailure {x : StateM FileTree (Except ε α)} (hx : AddsDirectories x) :
    OnFailure FileTree.Grows x :=
  fun t _ _ => hx t

theorem AddsDirectories.onFailure_bind {x : StateM FileTree α}
    {f : α → StateM FileTree (Except ε β)} (hx : AddsDirectories x)
    (hf : ∀ a, OnFailure FileTree.Grows (f a)) : OnFailure FileTree.Grows (x >>= f) := by
  intro t e h
  rw [run_bind] at h ⊢
  exact (hx t).trans (hf _ _ e h)

theorem ReadOnly.onFailure_bind {x : StateM FileTree α} {f : α → StateM FileTree (Except ε β)}
    (hx : ReadOnly x) (hf : ∀ a, OnFailure R (f a)) : OnFailure R (x >>= f) := by
  intro t e h
  rw [hx.run_bind] at h ⊢
  exact hf _ t e h

theorem ReadOnly.onFailure {x : StateM FileTree (Except ε α)} (hx : ReadOnly x)
    (hR : ∀ t, R t t) : OnFailure R x := by
  intro t _ _
  rw [hx t]
  exact hR t

/-- A step that only reports its argument's result fails only where its argument failed. -/
theorem OnFailure.bind_report {x : StateM FileTree (Except ε α)}
    {f : Except ε α → StateM FileTree (Except ε β)} (hx : OnFailure R x)
    (hf : ∀ r, ReadOnly (f r)) (hok : ∀ a t e, ((f (.ok a)).run t).1 ≠ .error e) :
    OnFailure R (x >>= f) := by
  intro t e h
  rw [run_bind] at h ⊢
  rw [hf]
  cases hr : (x.run t).1 with
  | ok a => exact absurd (hr ▸ h) (hok a _ e)
  | error e' => exact hx t e' hr

end Failures

namespace Cli

/-- The commands that only read: `summary`, `validate` and `generate --stdout`. -/
def Command.readsOnly : Command → Bool
  | .init _ => false
  | .summary _ _ => true
  | .generate _ _ _ _ toStdout => toStdout
  | .validate _ => true

/-- What a failing command may leave, from the tree `t` it started on: `init` the tree as it
was, or the new configuration and directories besides; `generate` new directories; the
others the tree as it was. -/
def Command.FailureLeaves (project : String) (t t' : FileTree) : Command → Prop
  | .init _ => t' = t ∨ ∃ t₁, t.write (Path.join project configFile)
      (({} : Config).toYaml.toUTF8.toList) = .ok t₁ ∧ t₁.Grows t'
  | .generate _ _ _ _ _ => t.Grows t'
  | _ => t' = t

/-! ## Loading and the read-only commands -/

theorem readOnly_loadContext (project : String) (configArg : Option String) :
    ReadOnly (loadContext project configArg : StateM FileTree _) := by
  unfold loadContext
  refine (FileSystem.readOnly_pathExists _).bind fun b => ?_
  split
  · refine (readOnly_readConfig _).bind fun r => ?_
    split <;> exact ReadOnly.pure _
  · split <;> exact ReadOnly.pure _

theorem readOnly_loadSchema (ctx : Context) (input : Option String) :
    ReadOnly (loadSchema ctx input : StateM FileTree _) := by
  unfold loadSchema
  refine (readOnly_readSnapshot _).bind fun r => ?_
  split
  · exact ReadOnly.pure _
  · split <;> exact ReadOnly.pure _

theorem readOnly_summarize (ctx : Context) (input : Option String) (json : Bool) :
    ReadOnly (summarize ctx input json : StateM FileTree _) := by
  unfold summarize
  refine (readOnly_loadSchema ctx input).bind fun r => ?_
  split
  · exact ReadOnly.pure _
  · split <;> exact ReadOnly.pure _

theorem readOnly_loadPrelude (ctx : Context) (base : Option String) :
    ReadOnly (loadPrelude ctx base : StateM FileTree _) := by
  unfold loadPrelude
  split
  · exact ReadOnly.pure _
  · refine (readOnly_readExisting _).bind fun r => ?_
    split <;> exact ReadOnly.pure _

theorem readOnly_validateSchema (ctx : Context) (input : Option String) :
    ReadOnly (validateSchema ctx input : StateM FileTree _) := by
  unfold validateSchema
  refine (readOnly_loadSchema ctx input).bind fun r => ?_
  split
  · exact ReadOnly.pure _
  · dsimp only
    split <;> exact ReadOnly.pure _

/-! ## Writing -/

theorem run_writeFile (path text : String) (t : FileTree) :
    (writeFile path text : StateM FileTree _).run t =
      match t.write path text.toUTF8.toList with
      | .ok t' => (Except.ok (), t')
      | .error e => (Except.error (.ofIo (.fileWrite path e.message)), t) := by
  unfold writeFile FileSystem.writeText
  rw [run_bind, FileSystem.run_writeBytes]
  cases t.write path text.toUTF8.toList <;> rfl

/-- A write that fails leaves the tree as it was. -/
theorem writeFile_failure {path text : String} {t : FileTree} {e : Failure}
    (h : ((writeFile path text : StateM FileTree _).run t).1 = .error e) :
    ((writeFile path text : StateM FileTree _).run t).2 = t := by
  rw [run_writeFile] at h ⊢
  cases hw : t.write path text.toUTF8.toList with
  | ok t' =>
    rw [hw] at h
    cases h
  | error e' => rfl

theorem onFailure_writeFile {R : FileTree → FileTree → Prop} (hR : ∀ t, R t t)
    (path text : String) : OnFailure R (writeFile path text : StateM FileTree _) := by
  intro t e h
  rw [writeFile_failure h]
  exact hR t

/-- A write followed by a step that fails only by growing the tree: a failure leaves the tree as
it was, or the written tree grown. -/
theorem onFailure_writeFile_bind {β : Type} (path text : String)
    {f : Except Failure Unit → StateM FileTree (Except Failure β)}
    (herr : ∀ e, ReadOnly (f (.error e))) (hok : OnFailure FileTree.Grows (f (.ok ()))) :
    OnFailure (fun t t' => t' = t ∨ ∃ t₁, t.write path text.toUTF8.toList = .ok t₁ ∧ t₁.Grows t')
      (writeFile path text >>= f) := by
  intro t e h
  rw [run_bind, run_writeFile] at h ⊢
  cases hw : t.write path text.toUTF8.toList with
  | ok t₁ =>
    rw [hw] at h
    exact .inr ⟨t₁, rfl, hok t₁ e h⟩
  | error e' => exact .inl (herr _ t)

/-! ## `generate` and `init` -/

theorem readOnly_generate_stdout (ctx : Context) (target : Target)
    (input base output : Option String) :
    ReadOnly (generate ctx target input base output true : StateM FileTree _) := by
  unfold generate
  refine (readOnly_loadSchema ctx input).bind fun r => ?_
  split
  · exact ReadOnly.pure _
  · lift_lets
    extract_lets configured outPath render
    have hrender : ∀ p, ReadOnly (render p) := by
      intro p
      unfold render
      split <;> exact ReadOnly.pure _
    split
    · exact (readOnly_loadPrelude ctx base).bind hrender
    · exact (ReadOnly.pure _).bind hrender

/-- A failing `generate` leaves new directories at most. -/
theorem onFailure_generate (ctx : Context) (target : Target) (input base output : Option String)
    (toStdout : Bool) :
    OnFailure FileTree.Grows
      (generate ctx target input base output toStdout : StateM FileTree _) := by
  unfold generate
  refine (readOnly_loadSchema ctx input).onFailure_bind fun r => ?_
  split
  · exact (ReadOnly.pure _).onFailure FileTree.Grows.refl
  · lift_lets
    extract_lets configured outPath render
    have hrender : ∀ p, OnFailure FileTree.Grows (render p) := by
      intro p
      unfold render
      split
      · exact (ReadOnly.pure _).onFailure FileTree.Grows.refl
      · lift_lets
        extract_lets document write
        have hwrite : ∀ u, OnFailure FileTree.Grows (write u) := by
          intro u
          refine (onFailure_writeFile FileTree.Grows.refl _ _).bind_report
            (fun r => ?_) (fun a t e => ?_)
          · split <;> exact ReadOnly.pure _
          · exact nofun
        split
        · -- printed, not written
          exact (ReadOnly.pure _).onFailure FileTree.Grows.refl
        · -- the output's directory is created before the file is written, and stays
          split
          · refine (FileSystem.addsDirectories_createDirAll _).onFailure_bind fun r => ?_
            split
            · exact (ReadOnly.pure _).onFailure FileTree.Grows.refl
            · exact hwrite ()
          · exact hwrite ()
    split
    · exact (readOnly_loadPrelude ctx base).onFailure_bind hrender
    · exact (ReadOnly.pure _).onFailure_bind hrender

/-- A failing `init` leaves the tree as it was, or the new configuration with new
directories. -/
theorem onFailure_initProject (project : String) (force : Bool) :
    OnFailure (fun t t' => (Command.init force).FailureLeaves project t t')
      (initProject project force : StateM FileTree _) := by
  unfold initProject
  lift_lets
  intro configPath created graphPath report afterDirectory
  have hreport : ∀ r, ReadOnly (report r) := by
    intro r
    unfold report
    split <;> exact ReadOnly.pure _
  have hafter : ∀ r, OnFailure FileTree.Grows (afterDirectory r) := by
    intro r
    unfold afterDirectory
    split
    · exact (ReadOnly.pure _).onFailure_bind fun _ => (hreport _).onFailure FileTree.Grows.refl
    · refine (onFailure_writeFile FileTree.Grows.refl _ _).bind_report
        (fun r => ?_) (fun a t e => ?_)
      · split <;> exact (ReadOnly.pure _).bind fun _ => hreport _
      · exact nofun
  refine (FileSystem.readOnly_pathExists _).onFailure_bind fun b => ?_
  split
  · exact (ReadOnly.pure _).onFailure fun t => .inl rfl
  · -- the configuration is written first; after it the snapshot's directory and file, whose
    -- failures only add directories
    refine onFailure_writeFile_bind _ _ (fun e => ReadOnly.pure _) ?_
    refine (FileSystem.readOnly_pathExists _).onFailure_bind fun b => ?_
    split
    · exact (ReadOnly.pure _).onFailure_bind fun _ => (hreport _).onFailure FileTree.Grows.refl
    · split
      · refine (FileSystem.addsDirectories_createDirAll _).onFailure_bind fun r => ?_
        split <;> exact (ReadOnly.pure _).onFailure_bind hafter
      · exact (ReadOnly.pure _).onFailure_bind hafter

/-! ## Commands -/

theorem readOnly_execute (project : String) (inv : Invocation)
    (h : inv.command.readsOnly = true) : ReadOnly (execute project inv : StateM FileTree _) := by
  obtain ⟨config, verbose, noColor, command⟩ := inv
  cases command with
  | init force => cases h
  | summary input json =>
    refine (readOnly_loadContext _ _).bind fun r => ?_
    split
    · exact ReadOnly.pure _
    · exact readOnly_summarize _ _ _
  | generate target input base output toStdout =>
    -- only `generate --stdout` reads only
    obtain rfl : toStdout = true := h
    refine (readOnly_loadContext _ _).bind fun r => ?_
    split
    · exact ReadOnly.pure _
    · exact readOnly_generate_stdout _ _ _ _ _
  | validate input =>
    refine (readOnly_loadContext _ _).bind fun r => ?_
    split
    · exact ReadOnly.pure _
    · exact readOnly_validateSchema _ _

theorem onFailure_execute (project : String) (inv : Invocation) :
    OnFailure (fun t t' => inv.command.FailureLeaves project t t')
      (execute project inv : StateM FileTree _) := by
  obtain ⟨config, verbose, noColor, command⟩ := inv
  cases command with
  | init force => exact onFailure_initProject project force
  | summary input json =>
    refine (readOnly_loadContext _ _).onFailure_bind fun r => ?_
    split
    · exact (ReadOnly.pure _).onFailure fun t => rfl
    · exact (readOnly_summarize _ _ _).onFailure fun t => rfl
  | generate target input base output toStdout =>
    refine (readOnly_loadContext _ _).onFailure_bind fun r => ?_
    split
    · exact (ReadOnly.pure _).onFailure FileTree.Grows.refl
    · exact onFailure_generate _ _ _ _ _ _
  | validate input =>
    refine (readOnly_loadContext _ _).onFailure_bind fun r => ?_
    split
    · exact (ReadOnly.pure _).onFailure fun t => rfl
    · exact (readOnly_validateSchema _ _).onFailure fun t => rfl

/-! ## Runs of the program -/

theorem run_of_parseArgs_error {args : List String} {e : Exit} (h : parseArgs args = .error e)
    (project : String) (t : FileTree) :
    ((run project args : StateM FileTree Outcome).run t).2 = t := by
  unfold run
  rw [h]
  rfl

/-- A run that reaches its command leaves the command's tree, with status 0 exactly when the
command succeeds. -/
theorem run_of_parseArgs_ok {args : List String} {inv : Invocation} (h : parseArgs args = .ok inv)
    (project : String) (t : FileTree) :
    ((run project args : StateM FileTree Outcome).run t).2 =
        ((execute project inv : StateM FileTree _).run t).2 ∧
      (((run project args : StateM FileTree Outcome).run t).1.code = 0 ↔
        ∃ text, ((execute project inv : StateM FileTree _).run t).1 = .ok text) := by
  unfold run
  rw [h, run_bind]
  cases ((execute project inv : StateM FileTree _).run t).1 with
  | ok text => exact ⟨rfl, iff_of_true rfl ⟨text, rfl⟩⟩
  | error f => exact ⟨rfl, iff_of_false nofun fun ⟨_, h⟩ => nomatch h⟩

/-- What a run of the program leaves in the tree it started on. -/
structure RunEffects (project : String) (args : List String) (t : FileTree) (o : Outcome)
    (t' : FileTree) : Prop where
  /-- Arguments the program rejects, and requests for help or the version, touch nothing. -/
  rejected : ∀ e, parseArgs args = .error e → t' = t
  /-- `summary`, `validate` and `generate --stdout` touch nothing. -/
  readsOnly : ∀ inv, parseArgs args = .ok inv → inv.command.readsOnly = true → t' = t
  /-- A failing command leaves what its failure may leave. -/
  failure : ∀ inv, parseArgs args = .ok inv → o.code ≠ 0 → inv.command.FailureLeaves project t t'

/-- Every run of the program, on every tree and every argument list, has the effects
`RunEffects` allows: a failing `init` may leave the new configuration and a failing `generate`
new directories, and nothing else that fails or only reads changes the tree. -/
theorem run_file_effects (project : String) (args : List String) (t : FileTree) :
    RunEffects project args t ((run project args : StateM FileTree Outcome).run t).1
      ((run project args : StateM FileTree Outcome).run t).2 := by
  constructor
  · intro e he
    exact run_of_parseArgs_error he project t
  · intro inv hinv hreads
    rw [(run_of_parseArgs_ok hinv project t).1]
    exact readOnly_execute project inv hreads t
  · intro inv hinv hcode
    obtain ⟨hstate, hok⟩ := run_of_parseArgs_ok hinv project t
    rw [hstate]
    -- a status other than 0 means the command ended in an error
    cases hr : ((execute project inv : StateM FileTree _).run t).1 with
    | ok text => exact absurd (hok.mpr ⟨text, hr⟩) hcode
    | error f => exact onFailure_execute project inv t f hr

/-- A project where a regular file `schema` stands where `init` puts the snapshot's directory. -/
def schemaFileProject : FileTree :=
  { entries := [(["<project>"], .directory),
      (["<project>", "schema"], .file "i am a file".toUTF8.toList)] }

/-- `init` fails on `schemaFileProject`, and the configuration it wrote first stays. -/
theorem init_failure_keeps_config :
    ((run "<project>" ["init"] : StateM FileTree Outcome).run schemaFileProject).1.code = 1 ∧
      FileTree.entry? schemaFileProject ["<project>", configFile] = none ∧
      FileTree.entry? ((run "<project>" ["init"] : StateM FileTree Outcome).run schemaFileProject).2
        ["<project>", configFile] ≠ none := by
  decide +kernel

end Cli

end SchemaNorm
