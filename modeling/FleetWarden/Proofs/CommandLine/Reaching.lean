import FleetWarden.Proofs.CommandLine.Invocations

/-!
# Invocations up to their commands

An invocation whose arguments call a command comes to the command with the manager that it finds
(`invoke_of_finds`), or stops on the way with exit code 1. Nothing is asked of the remote side on
the way, and the terminal is left for the command (`invoke_reaches`).
-/

namespace FleetWarden.CommandLine

variable {ρ : Type}

/-- The clients of all managers that can be found are of one kind. -/
inductive Supply.ServedBy (P : Client ρ → Prop) : Supply ρ → Prop
  | given (system : System ρ) {client : Client ρ} (h : P client) :
      ServedBy P (.given system client)
  | configured (provider : CloudProvider) {connect : ResourceGroup → Client ρ} (world : World ρ)
      (h : ∀ group, P (connect group)) : ServedBy P (.configured provider connect world)

theorem Stop.exitCode_ofFault (tried : String) (f : Fault) :
    (Stop.ofFault tried f).exitCode = 1 := by
  rw [ofFault]
  split_ifs <;> rfl

/-- What is left when a command that a group watches over is done, or stops. -/
def Outcome.ofDesk (watch : CommandSpec) (s : Shell ρ) : Except Stop Unit × Desk ρ → Outcome ρ
  | (.ok _, d) => ⟨0, none, { s with terminal := d.terminal, world := d.system.world }⟩
  | (.error stop, d) =>
    .ofRun (Shell.settle watch stop { s with terminal := d.terminal, world := d.system.world })

theorem Outcome.world_settle (watch : CommandSpec) (stop : Stop) (s : Shell ρ) :
    (ofRun (Shell.settle watch stop s)).shell.world = s.world := by
  cases stop <;> rfl

theorem remote_registered (fleets : List Fleet) (s : System ρ) :
    (fleets.foldl (fun s fleet => s.register fleet) s).world.remote = s.world.remote := by
  induction fleets generalizing s with
  | nil => rfl
  | cons fleet rest ih => exact ih (s.register fleet)

namespace Shell
variable {P : Client ρ → Prop} {around : Surroundings ρ} {environment : List (String × String)}
  {path : Option String} {s : Shell ρ}

/-- Nothing was asked of the remote side, and nothing was written or read. -/
def Untouched (s s' : Shell ρ) : Prop :=
  s'.terminal = s.terminal ∧ s'.world.remote = s.world.remote

theorem exitCode_settleStartup (f : StartupFault) : (settleStartup f).exitCode = 1 := by
  rw [settleStartup]
  split_ifs <;> rfl

theorem loadConfig_cases (environment : List (String × String)) (path : Option String)
    (s : Shell ρ) :
    (∃ c log s', loadConfig environment path s = (.ok c, s') ∧
        (Storage.loadFrom path environment ⟨s.storage.disk, []⟩).1 = .ok c ∧
        s'.terminal = s.terminal ∧ s'.world = { s.world with log } ∧
        s'.storage.disk.host = s.storage.disk.host) ∨
      ∃ stop s', loadConfig environment path s = (.error stop, s') ∧ stop.exitCode = 1 ∧
        Untouched s s' := by
  rw [loadConfig]
  have hhost := Storage.host_loadFrom path environment { s.storage with log := [] }
  rcases hload : Storage.loadFrom path environment { s.storage with log := [] } with ⟨f | c, t⟩
  · exact .inr ⟨_, _, rfl, exitCode_settleStartup _, rfl, rfl⟩
  · rw [hload] at hhost
    exact .inl ⟨c, _, _, rfl, rfl, rfl, rfl, hhost⟩

theorem openManager_cases (provider : CloudProvider) (connect : ResourceGroup → Client ρ)
    (c : FleetConfig) (s : Shell ρ) :
    (∃ t o log s', openManager provider connect c s =
          (.ok (o.system { s.world with log }, connect o.group), s') ∧
        (Startup.openManager s.storage.disk.host.limits provider c t).1 = .ok o ∧
        s'.terminal = s.terminal) ∨
      ∃ stop s', openManager provider connect c s = (.error stop, s') ∧ stop.exitCode = 1 ∧
        Untouched s s' := by
  rw [openManager]
  dsimp only
  rcases hopen : Startup.openManager s.storage.disk.host.limits provider c
    { s.trace with log := [] } with ⟨f | o, t⟩
  · exact .inr ⟨_, _, rfl, exitCode_settleStartup _, rfl, rfl⟩
  · exact .inl ⟨_, o, _, _, rfl, congrArg Prod.fst hopen, rfl⟩

theorem manager_cases (hserved : around.supply.ServedBy P)
    (hworld : s.world = around.supply.world) :
    (∃ system client s', manager around path s = (.ok (system, client), s') ∧
        around.supply.Provides around.environment path s.storage.disk system ∧ P client ∧
        system.world.remote = around.supply.world.remote ∧ s'.terminal = s.terminal) ∨
      ∃ stop s', manager around path s = (.error stop, s') ∧ stop.exitCode = 1 ∧
        Untouched s s' := by
  rw [manager]
  generalize around.supply = supply at hserved hworld ⊢
  cases hserved with
  | given system h => exact .inl ⟨system, _, s, rfl, .given system _, h, rfl, rfl⟩
  | @configured provider connect world h =>
      dsimp only
      obtain ⟨c, log, s', hload, hloaded, hterminal, hs', hhost⟩ |
        ⟨stop, s', hload, hcode, hsame⟩ := loadConfig_cases around.environment path s
      · rw [Action.bind_of_ok hload]
        obtain ⟨t, o, log', s'', hopen, hmade, hterminal'⟩ | ⟨stop, s'', hopen, hcode, hsame⟩ :=
          openManager_cases provider connect c s'
        · have hlog : { s'.world with log := log' } = { world with log := log' } := by
            rw [hs', hworld]
            rfl
          rw [hlog] at hopen
          rw [hhost] at hmade
          exact .inl ⟨_, _, s'', hopen, .opened log' hloaded hmade, h _,
            remote_registered o.fleets _, hterminal'.trans hterminal⟩
        · refine .inr ⟨stop, s'', hopen, hcode, hsame.1.trans hterminal, hsame.2.trans ?_⟩
          rw [hs']
      · rw [Action.bind_of_error hload]
        exact .inr ⟨stop, s', rfl, hcode, hsame⟩

theorem manager_cases_chosen (around : Surroundings ρ) (input : String) (disk : Disk) (p : Parsed)
    (hserved : around.supply.ServedBy P) :
    (∃ system client s, manager around (configNamed around.environment p)
          (chosen around input disk p) = (.ok (system, client), s) ∧
        around.supply.Provides around.environment (configNamed around.environment p) disk system ∧
        P client ∧ system.world.remote = around.supply.world.remote ∧
        s.terminal = .withInput input) ∨
      ∃ stop s, manager around (configNamed around.environment p) (chosen around input disk p) =
        (.error stop, s) ∧ stop.exitCode = 1 ∧ Untouched (chosen around input disk p) s :=
  manager_cases hserved rfl

end Shell

open Shell

/-- The manager that an invocation finds for its command, and the client of the manager. -/
def Surroundings.Finds (around : Surroundings ρ) (input : String) (disk : Disk) (p : Parsed)
    (system : System ρ) (client : Client ρ) : Prop :=
  ∃ s, manager around (configNamed around.environment p) (chosen around input disk p) =
    (.ok (system, client), s)

theorem Surroundings.finds_of_given (around : Surroundings ρ) {system : System ρ}
    {client : Client ρ} (h : around.supply = .given system client) (input : String) (disk : Disk)
    (p : Parsed) : around.Finds input disk p system client := by
  refine ⟨chosen around input disk p, ?_⟩
  rw [manager, h]
  rfl

theorem Supply.servedBy_true (supply : Supply ρ) : supply.ServedBy fun _ => True := by
  cases supply with
  | given system client => exact .given system trivial
  | configured provider connect world => exact .configured provider world fun _ => trivial

section
variable {around : Surroundings ρ} {input : String} {disk : Disk} {args : List String}
  {p : Parsed} {c : Command}

/-- The command is run with the manager that is found. -/
theorem invoke_of_finds {system : System ρ} {client : Client ρ}
    (hcalls : Calls around.environment disk args p c)
    (hfinds : around.Finds input disk p system client) :
    ∃ watch s, invoke around input disk args =
      .ofDesk watch s (c.run client around.interruptAt ⟨.withInput input, system⟩) := by
  obtain ⟨s, hmanager⟩ := hfinds
  have hterminal : s.terminal = .withInput input := by
    obtain ⟨_, _, s', hfound, -, -, -, hterminal⟩ | ⟨stop, s', hstopped, -⟩ :=
      manager_cases_chosen around input disk p around.supply.servedBy_true
    · cases hmanager.symm.trans hfound
      exact hterminal
    · cases hmanager.symm.trans hstopped
  obtain ⟨watch, hinvoke⟩ := invoke_of_calls_eq input hcalls
  refine ⟨watch, s, ?_⟩
  rw [hinvoke, runCommand, Action.recover_bind_of_ok hmanager, Action.recover]
  dsimp only [atDesk]
  rw [hterminal]
  rcases c.run client around.interruptAt ⟨.withInput input, system⟩ with ⟨stop | _, d⟩ <;> rfl

/-- The command is reached with a manager and an untouched terminal, or the invocation stops before
anything is asked of the remote side. -/
theorem invoke_reaches {P : Client ρ → Prop} {around : Surroundings ρ}
    (hserved : around.supply.ServedBy P) (input : String) {disk : Disk} {args : List String}
    {p : Parsed} {c : Command} (hcalls : Calls around.environment disk args p c) :
    (∃ system client watch s,
        around.supply.Provides around.environment (configNamed around.environment p) disk system ∧
        P client ∧ system.world.remote = around.supply.world.remote ∧
        invoke around input disk args =
          .ofDesk watch s (c.run client around.interruptAt ⟨.withInput input, system⟩)) ∨
      ∃ stop s, stop.exitCode = 1 ∧ s.world.remote = around.supply.world.remote ∧
        invoke around input disk args = .ofStop stop s := by
  obtain ⟨system, client, s, hmanager, hprovides, hclient, hremote, -⟩ |
    ⟨stop, s, hmanager, hcode, -, hremote⟩ :=
      manager_cases_chosen around input disk p hserved
  · obtain ⟨watch, s', hinvoke⟩ := invoke_of_finds hcalls ⟨s, hmanager⟩
    exact .inl ⟨system, client, watch, s', hprovides, hclient, hremote, hinvoke⟩
  · refine .inr ⟨stop, s, hcode, hremote, ?_⟩
    obtain ⟨watch, hinvoke⟩ := invoke_of_calls_eq input hcalls
    rw [hinvoke, runCommand, Action.recover_of_error (Action.bind_of_error hmanager),
      settle_of_exitCode (by rw [hcode]; decide)]
    rfl

end

/-- A remote side with sets of all names, each of one instance, which takes every update and
every deletion. -/
def obliging : Azure Unit where
  get _ name := pure ⟨some name, some (.int 1), none⟩
  list _ _ := pure [⟨some "0", some "/vm/a"⟩]
  reach _ _ := pure ()
  beginUpdate _ _ _ := pure ()
  finishUpdate _ _ := pure ()
  beginDelete _ _ _ := pure ()
  finishDelete _ _ := pure ()

end FleetWarden.CommandLine
