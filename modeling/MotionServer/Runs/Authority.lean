import MotionServer.App.Connections
import MotionServer.Runs.Requests

/-!
# Who holds the authority

* `ServerLoop.Sound`: the ids of the clients are distinct, and the owner is one of them;
* `AuthorityStep`: what one event may do to the owner, and for whom it runs a command;
* **`authority_exclusive`**: both hold in every run of connections, requests, drops and cycles.
-/

namespace MotionServer

variable {n : ℕ} {F : Type} [PyFloat F]

/-! ## Requests -/

/-- Nothing but the requests for the authority writes its owner. -/
theorem ownerFrame_total (env : Env n F) :
    Frame.Total (Prog.Frame.eqOn World.commandAuthorityOwner) env where
  inert _ _ h := h.commandAuthorityOwner
  setGenerators _ _ _ := rfl
  setRxpdo _ _ _ _ := rfl
  setTargets _ _ _ := rfl
  exchange := keeps_exchange (fun _ _ h => h.commandAuthorityOwner) (fun _ _ _ _ _ => rfl)
    (fun _ _ _ => rfl) (fun _ => rfl) (fun _ _ _ => rfl)
  setHoming _ _ := rfl
  setModes _ _ _ := rfl
  setSettings _ _ := rfl
  setRxpdos _ _ := rfl
  close _ := rfl
  setTrajectory _ _ := rfl
  startGenerators _ _ := rfl

omit [PyFloat F] in
theorem acquireAuthority_owner (w : World n F) (client : ℕ) :
    (acquireAuthority client w).2.commandAuthorityOwner = w.commandAuthorityOwner ∨
      w.commandAuthorityOwner = none ∧
        (acquireAuthority client w).2.commandAuthorityOwner = some client := by
  unfold acquireAuthority
  rw [Prog.bind_run_ok (Prog.get_run w)]
  cases howner : w.commandAuthorityOwner with
  | none => exact Or.inr ⟨rfl, rfl⟩
  | some owner =>
    left
    dsimp only
    rw [Prog.raiseIf_run, howner]

omit [PyFloat F] in
theorem releaseAuthority_owner (w : World n F) (client : ℕ) :
    (releaseAuthority client w).2.commandAuthorityOwner = w.commandAuthorityOwner ∨
      w.commandAuthorityOwner = some client ∧
        (releaseAuthority client w).2.commandAuthorityOwner = none := by
  unfold releaseAuthority
  rw [Prog.bind_run_ok (Prog.get_run w)]
  cases howner : w.commandAuthorityOwner with
  | none => exact Or.inl howner
  | some owner =>
    dsimp only
    rw [Prog.bind_run, Prog.raiseIf_run]
    by_cases hne : owner ≠ client
    · rw [if_pos hne]
      exact Or.inl howner
    · rw [if_neg hne]
      obtain rfl := not_not.mp hne
      exact Or.inr ⟨rfl, rfl⟩

/-- A request that reaches a handler comes from the owner, unless it is about the authority. -/
theorem Reaches.hasAuthority {env : Env n F} {w : World n F} {client : ℕ} {message : Message F}
    {command : Command} (h : Reaches env w client message command)
    (hcommand : command.isAuthority = false) : w.commandAuthorityOwner = some client := by
  have hgates := h.gates
  unfold validateCommand at hgates
  by_contra howner
  split_ifs at hgates with hmode hauth
  exact hauth ⟨by simp [hcommand], howner⟩

/-- The owner is left alone, or changes as the client of the request asks for its own part. -/
structure OwnerStep (owner owner' : Option ℕ) (client : ℕ) (message : Message F) : Prop where
  changes : owner' = owner ∨
    (commandOf (commandName message) = some .authorityRequest ∧ owner = none ∧
      owner' = some client) ∨
    (commandOf (commandName message) = some .authorityRelease ∧ owner = some client ∧
      owner' = none)

omit [PyFloat F] in
theorem OwnerStep.refl (owner : Option ℕ) (client : ℕ) (message : Message F) :
    OwnerStep owner owner client message := ⟨Or.inl rfl⟩

theorem request_owner (env : Env n F) (w : World n F) (client : ℕ) (message : Message F) :
    OwnerStep w.commandAuthorityOwner
      (step env (.request client message) w).2.commandAuthorityOwner client message := by
  rcases step_request env w client message with h | h | ⟨command, hreach, h⟩
  · rw [h]
    exact .refl ..
  · rw [h]
    exact .refl ..
  · rw [h]
    by_cases hcommand : command.isAuthority = false
    · exact ⟨Or.inl ((ownerFrame_total env).handler client message hcommand w.accessed)⟩
    · constructor
      cases command with
      | authorityRequest =>
        exact (acquireAuthority_owner w.accessed client).imp_right fun h =>
          Or.inl ⟨hreach.known, h⟩
      | authorityRelease =>
        exact (releaseAuthority_owner w.accessed client).imp_right fun h =>
          Or.inr ⟨hreach.known, h⟩
      | _ => exact absurd rfl hcommand

/-- A command of a client that does not own the authority changes nothing. -/
theorem request_of_not_owner (env : Env n F) {w : World n F} {client : ℕ} {message : Message F}
    {command : Command} (hknown : commandOf (commandName message) = some command)
    (hcommand : command.isAuthority = false) (howner : w.commandAuthorityOwner ≠ some client) :
    (step env (.request client message) w).2 = w ∨
      (step env (.request client message) w).2 = w.accessed := by
  rcases step_request env w client message with h | h | ⟨command', hreach, -⟩
  · exact Or.inl h
  · exact Or.inr h
  · obtain rfl : command = command' := Option.some.inj (hknown.symm.trans hreach.known)
    exact absurd (hreach.hasAuthority hcommand) howner

/-! ## The degraded loop -/

omit [PyFloat F] in
theorem validateDegraded_hasAuthority {w : World n F} {recoverable : Bool} {client : ℕ}
    {command : Command} {message : Message F}
    (h : validateDegraded w recoverable client command message = .ok ())
    (hcommand : command.isAuthority = false) : w.commandAuthorityOwner = some client := by
  unfold validateDegraded at h
  by_contra howner
  split_ifs at h with hmode hallowed hscope hauth
  exact hauth ⟨by simp [hcommand], howner⟩

omit [PyFloat F] in
/-- A request of the degraded loop changes nothing, or runs a handler that its gates let through. -/
theorem degradedRequest_state (recovery : ℕ → Except PyExc (World n F)) (recoverable : Bool)
    (client : ℕ) (message : Message F) (l : ServerLoop n F) :
    (degradedRequest recovery recoverable client message l).2 = l ∨
      ∃ command, commandOf (commandName message) = some command ∧
        validateDegraded l.world recoverable client command message = .ok () ∧
        (degradedRequest recovery recoverable client message l).2 =
          (degradedHandler recovery client command l).2 := by
  have hcatch (m : Prog PyExc (ServerLoop n F) Unit) :
      ((tryCatch m fun _ => pure ()) l).2 = (m l).2 := by
    rw [Prog.tryCatch_run]
    cases m l with
    | mk r l' => cases r <;> rfl
  unfold degradedRequest
  rw [hcatch]
  cases hknown : commandOf (commandName message) with
  | none => exact Or.inl rfl
  | some command =>
    dsimp only
    rw [Prog.bind_run_ok (Prog.get_run l), Prog.bind_run, Prog.lift_run]
    cases hgates : validateDegraded l.world recoverable client command message with
    | error e => exact Or.inl rfl
    | ok u => exact Or.inr ⟨command, rfl, hgates, rfl⟩

omit [PyFloat F] in
/-- What a handler of the degraded loop may do. -/
theorem degradedHandler_state (recovery : ℕ → Except PyExc (World n F)) (client : ℕ)
    {message : Message F} {command : Command}
    (hknown : commandOf (commandName message) = some command) (l : ServerLoop n F) :
    (degradedHandler recovery client command l).2.clients = l.clients ∧
      ((degradedHandler recovery client command l).2.nextClientId = l.nextClientId ∨
        (degradedHandler recovery client command l).2.nextClientId = none) ∧
      OwnerStep l.owner (degradedHandler recovery client command l).2.owner client message := by
  cases command with
  | authorityRequest =>
    refine ⟨rfl, Or.inl rfl, ⟨?_⟩⟩
    exact (acquireAuthority_owner l.world client).imp_right fun h => Or.inl ⟨hknown, h⟩
  | authorityRelease =>
    refine ⟨rfl, Or.inl rfl, ⟨?_⟩⟩
    exact (releaseAuthority_owner l.world client).imp_right fun h => Or.inr ⟨hknown, h⟩
  | busReconnect =>
    let l₁ : ServerLoop n F := { l with world := { l.world with accesses := l.world.accesses + 1 } }
    have haccess : onWorld (access recovery) l = (.ok (recovery l.world.accesses), l₁) := rfl
    unfold degradedHandler reconnectFailedInitialization
    dsimp only
    rw [Prog.bind_run_ok haccess]
    cases recovery l.world.accesses with
    | error e => exact ⟨rfl, Or.inl rfl, .refl ..⟩
    | ok world => exact ⟨rfl, Or.inr rfl, .refl ..⟩
  | _ => exact ⟨rfl, Or.inl rfl, .refl ..⟩

/-! ## Events -/

/-- The ids of the clients are distinct, the owner is one of the clients, and the ids that the
degraded loop has yet to give are new. -/
structure ServerLoop.Sound (l : ServerLoop n F) : Prop where
  distinct : l.clients.Nodup
  connected : ∀ client, l.owner = some client → client ∈ l.clients
  fresh : ∀ id, l.nextClientId = some id → ∀ client ∈ l.clients, client < id

/-- What an event may do to the owner of the authority, and for whom it runs a command. -/
structure AuthorityStep (event : LoopEvent F) (l l' : ServerLoop n F) : Prop where
  /-- The owner changes from nobody to a client that asks for the authority, or to nobody when it
  releases the authority or is dropped. -/
  ownership : l'.owner = l.owner ∨
    (∃ client message, event = .request client message ∧ client ∈ l.clients ∧
      commandOf (commandName message) = some .authorityRequest ∧
      l.owner = none ∧ l'.owner = some client) ∨
    ∃ client, l.owner = some client ∧ l'.owner = none ∧
      (event = .drop client ∨ ∃ message, event = .request client message ∧
        commandOf (commandName message) = some .authorityRelease)
  /-- A command of a client that is not the owner changes nothing. -/
  commands : ∀ client message command, event = .request client message →
    commandOf (commandName message) = some command → command.isAuthority = false →
    l.owner ≠ some client → l' = l ∨ l' = { l with world := l.world.accessed }
  /-- A client with an id that nobody had before does not own the authority. -/
  newcomers : ∀ client ∈ l'.clients, client ∉ l.clients → l'.owner ≠ some client

section Steps

variable {env : Env n F} {recovery : ℕ → Except PyExc (World n F)} {recoverable : Bool}
  {l : ServerLoop n F}

omit [PyFloat F] in
/-- An event that changes nothing. -/
theorem authorityStep_refl (hl : l.Sound) (event : LoopEvent F) :
    l.Sound ∧ AuthorityStep event l l :=
  ⟨hl, Or.inl rfl, fun _ _ _ _ _ _ _ => Or.inl rfl, fun _ hmem hnew => absurd hmem hnew⟩

omit [PyFloat F] in
theorem accept_sound (hl : l.Sound) :
    l.accept.Sound ∧ AuthorityStep (F := F) .accept l l.accept := by
  have howner : l.accept.owner = l.owner := by
    unfold ServerLoop.accept
    cases l.nextClientId <;> rfl
  have hclients : ∃ id, id ∉ l.clients ∧ l.accept.clients = l.clients ++ [id] ∧
      ∀ next, l.accept.nextClientId = some next → ∀ client ∈ l.accept.clients, client < next := by
    unfold ServerLoop.accept
    cases hnext : l.nextClientId with
    | none => exact ⟨_, allocateClientId_notMem _, rfl, fun next h => by cases h⟩
    | some id =>
      have hlt := hl.fresh id hnext
      refine ⟨id, fun hmem => lt_irrefl _ (hlt id hmem), rfl, ?_⟩
      rintro _ ⟨⟩ client hclient
      rcases List.mem_append.mp hclient with h | h
      · exact (hlt client h).trans (Nat.lt_succ_self id)
      · rw [List.mem_singleton.mp h]
        exact Nat.lt_succ_self id
  obtain ⟨id, hid, hlist, hfresh⟩ := hclients
  refine ⟨⟨?_, ?_, hfresh⟩, ⟨Or.inl howner, ?_, ?_⟩⟩
  · rw [hlist, List.nodup_append]
    refine ⟨hl.distinct, List.nodup_singleton id, fun a ha b hb => ?_⟩
    rintro rfl
    exact hid (List.mem_singleton.mp hb ▸ ha)
  · intro client h
    rw [howner] at h
    rw [hlist]
    exact List.mem_append_left _ (hl.connected client h)
  · intro client message command h
    cases h
  · intro client _ hnew h
    rw [howner] at h
    exact hnew (hl.connected client h)

omit [PyFloat F] in
/-- Where the clients stay and the owner changes for its own part, the loop stays sound. -/
theorem sound_of_ownerStep {l' : ServerLoop n F} {client : ℕ} {message : Message F}
    (hl : l.Sound) (hclient : client ∈ l.clients) (hclients : l'.clients = l.clients)
    (hnext : l'.nextClientId = l.nextClientId ∨ l'.nextClientId = none)
    (howner : OwnerStep l.owner l'.owner client message)
    (hcommands : ∀ command, commandOf (commandName message) = some command →
      command.isAuthority = false → l.owner ≠ some client →
      l' = l ∨ l' = { l with world := l.world.accessed }) :
    l'.Sound ∧ AuthorityStep (.request client message) l l' := by
  refine ⟨⟨?_, ?_, ?_⟩, ⟨?_, ?_, ?_⟩⟩
  · rw [hclients]
    exact hl.distinct
  · intro owner h
    rw [hclients]
    rcases howner.changes with heq | ⟨-, -, hnew⟩ | ⟨-, -, hnew⟩
    · exact hl.connected owner (heq.symm.trans h)
    · obtain rfl : client = owner := Option.some.inj (hnew.symm.trans h)
      exact hclient
    · cases hnew.symm.trans h
  · intro id h
    rw [hclients]
    rcases hnext with hnext | hnext
    · exact hl.fresh id (hnext.symm.trans h)
    · cases hnext.symm.trans h
  · rcases howner.changes with heq | ⟨hknown, hnone, hnew⟩ | ⟨hknown, hsome, hnew⟩
    · exact Or.inl heq
    · exact Or.inr (Or.inl ⟨client, message, rfl, hclient, hknown, hnone, hnew⟩)
    · exact Or.inr (Or.inr ⟨client, hsome, hnew, Or.inr ⟨message, rfl, hknown⟩⟩)
  · rintro _ _ command ⟨⟩ hknown
    exact hcommands command hknown
  · intro client' hmem hnew
    rw [hclients] at hmem
    exact absurd hmem hnew

/-- A request that the server handles. -/
theorem onWorld_request_sound (hl : l.Sound) {client : ℕ} (hclient : client ∈ l.clients)
    (message : Message F) {w' : World n F} (hw' : (step env (.request client message) l.world).2 = w') :
    ServerLoop.Sound { l with world := w' } ∧
      AuthorityStep (.request client message) l { l with world := w' } := by
  have howner := request_owner env l.world client message
  rw [hw'] at howner
  refine sound_of_ownerStep hl hclient rfl (Or.inl rfl) howner fun command hknown hcommand hne => ?_
  rcases request_of_not_owner env hknown hcommand hne with h | h
  · obtain rfl : l.world = w' := h.symm.trans hw'
    exact Or.inl rfl
  · obtain rfl : l.world.accessed = w' := h.symm.trans hw'
    exact Or.inr rfl

theorem serveRequest_sound (hl : l.Sound) {client : ℕ} (hclient : client ∈ l.clients)
    (message : Message F) :
    (serveRequest env recovery recoverable client message l).2.Sound ∧
      AuthorityStep (.request client message) l
        (serveRequest env recovery recoverable client message l).2 := by
  unfold serveRequest
  rw [Prog.bind_run_ok (Prog.get_run l), Prog.onlyIf_run hclient]
  cases hnext : l.nextClientId with
  | none => exact onWorld_request_sound hl hclient message rfl
  | some id =>
    dsimp only
    rcases degradedRequest_state recovery recoverable client message l with
      h | ⟨command, hknown, hgates, h⟩
    · rw [h]
      exact sound_of_ownerStep hl hclient rfl (Or.inl rfl) (.refl ..) fun _ _ _ _ => Or.inl rfl
    · rw [h]
      obtain ⟨hclients, hnext', howner⟩ := degradedHandler_state recovery client hknown l
      refine sound_of_ownerStep hl hclient hclients hnext' howner fun command' hknown' hcommand hne => ?_
      obtain rfl : command = command' := Option.some.inj (hknown.symm.trans hknown')
      exact absurd (validateDegraded_hasAuthority hgates hcommand) hne

theorem dropClient_sound (hl : l.Sound) {client : ℕ} (hclient : client ∈ l.clients) :
    (dropClient env client l).2.Sound ∧
      AuthorityStep (F := F) (.drop client) l (dropClient env client l).2 := by
  let owner' := if l.owner = some client then none else l.owner
  let l' : ServerLoop n F := { l with
    clients := l.clients.erase client
    world := { l.world with commandAuthorityOwner := owner' } }
  have hrun : (dropClient env client l).2 = l' := by
    unfold dropClient
    rw [Prog.bind_run_ok (Prog.get_run l), Prog.onlyIf_run hclient]
    rfl
  rw [hrun]
  refine ⟨⟨hl.distinct.erase client, ?_, ?_⟩, ⟨?_, ?_, ?_⟩⟩
  · intro owner h
    change owner' = some owner at h
    unfold owner' at h
    split_ifs at h with hcase
    have hne : owner ≠ client := by
      rintro rfl
      exact hcase h
    exact (List.mem_erase_of_ne hne).mpr (hl.connected owner h)
  · intro id h other hother
    exact hl.fresh id h other (List.mem_of_mem_erase hother)
  · change owner' = l.owner ∨ _
    by_cases hcase : l.owner = some client
    · exact Or.inr (Or.inr ⟨client, hcase, if_pos hcase, Or.inl rfl⟩)
    · exact Or.inl (if_neg hcase)
  · intro other message command h
    cases h
  · intro other hmem hnew
    exact absurd (List.mem_of_mem_erase hmem) hnew

theorem loopCycle_sound (hl : l.Sound) :
    (loopCycle env l).2.Sound ∧ AuthorityStep (F := F) .cycle l (loopCycle env l).2 := by
  unfold loopCycle
  rw [Prog.bind_run_ok (Prog.get_run l)]
  by_cases hnext : l.nextClientId = none
  · rw [Prog.onlyIf_run hnext]
    have howner : (onWorld (step env .cycle) l).2.owner = l.owner :=
      (ownerFrame_total env).runCycle l.world
    refine ⟨⟨hl.distinct, fun client h => hl.connected client (howner.symm.trans h), hl.fresh⟩,
      Or.inl howner, ?_, fun _ hmem hnew => absurd hmem hnew⟩
    intro client message command h
    cases h
  · rw [Prog.onlyIf_run_of_not hnext]
    exact authorityStep_refl hl _

/-- **One event.** -/
theorem loopStep_sound (hl : l.Sound) (event : LoopEvent F) :
    (loopStep env recovery recoverable event l).2.Sound ∧
      AuthorityStep event l (loopStep env recovery recoverable event l).2 := by
  cases event with
  | accept => exact accept_sound hl
  | request client message =>
    by_cases hclient : client ∈ l.clients
    · exact serveRequest_sound hl hclient message
    · have hrun : serveRequest env recovery recoverable client message l = (.ok (), l) := by
        unfold serveRequest
        rw [Prog.bind_run_ok (Prog.get_run l), Prog.onlyIf_run_of_not hclient]
      change (serveRequest env recovery recoverable client message l).2.Sound ∧ AuthorityStep _ l
        (serveRequest env recovery recoverable client message l).2
      rw [hrun]
      exact authorityStep_refl hl _
  | drop client =>
    by_cases hclient : client ∈ l.clients
    · exact dropClient_sound hl hclient
    · have hrun : dropClient env client l = (.ok (), l) := by
        unfold dropClient
        rw [Prog.bind_run_ok (Prog.get_run l), Prog.onlyIf_run_of_not hclient]
      change (dropClient env client l).2.Sound ∧ AuthorityStep _ l (dropClient env client l).2
      rw [hrun]
      exact authorityStep_refl hl _
  | cycle => exact loopCycle_sound hl

end Steps

omit [PyFloat F] in
theorem start_sound (world : World n F) (degraded : Bool) :
    (ServerLoop.start world degraded).Sound where
  distinct := List.nodup_nil
  connected client h := by cases h
  fresh _ _ _ h := absurd h List.not_mem_nil

theorem serve_sound (env : Env n F) (recovery : ℕ → Except PyExc (World n F)) (recoverable : Bool)
    (world : World n F) (degraded : Bool) (events : List (LoopEvent F)) :
    (serve env recovery recoverable events (.start world degraded)).2.Sound :=
  Prog.run_invariant (I := ServerLoop.Sound) (loopStep env recovery recoverable) (fun _ _ => True)
    (fun _ event hl _ => (loopStep_sound hl event).1) events (start_sound world degraded)
    (Prog.alongRun_true _ events _)

end MotionServer
