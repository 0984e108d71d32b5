import Xrtc.SrtNetLocks

/-!
# The life of a session

Which of the mode, the two activity flags and the two thread handles an object
may combine.  `Lifecycle` ties them to the session threads that exist, and
`Phase` adds what the owner of `net_mtx_` knows while it is in the middle of a
start or a stop.
-/

namespace SrtNet

/-- The fields through which a start and a stop record their progress. -/
structure Life where
  serverActive : Bool
  clientActive : Bool
  workerThread : Option Tid
  currentMode : Mode

/-- The progress fields of an object. -/
def State.life (σ : State) : Life where
  serverActive := σ.serverActive
  clientActive := σ.clientActive
  workerThread := σ.workerThread
  currentMode := σ.currentMode

/-- Everything a session is recorded in. -/
structure LifeView where
  life : Life
  eventThread : Option Tid
  session : Nat
  netMtx : Option Tid

/-- Everything the object records about its session. -/
def State.lifeView (σ : State) : LifeView where
  life := σ.life
  eventThread := σ.eventThread
  session := σ.session
  netMtx := σ.netMtx

/-- `stop` has cleared the activity flags of a session in the given mode. -/
structure Life.Stopping (l : Life) (mode : Mode) : Prop where
  mode_ne : mode ≠ .unknown
  mode_eq : l.currentMode = mode
  server : l.serverActive = false
  client : l.clientActive = false

/-- What the owner of `net_mtx_` knows at a program counter. -/
def Phase (l : Life) : Pc → Prop
  | .start _ pc => pc = .create ∨ pc.working → l.currentMode = .unknown
  | .stop _ (.srtClose mode) => l.Stopping mode
  | .stop _ (.joinWorker mode result) => l.Stopping mode ∧ result ≠ some SRT_ERROR
  | .stop _ (.joinEvent result) =>
      l.Stopping .server ∧ result ≠ some SRT_ERROR ∧ l.workerThread = none
  | .stop _ (.ret result) => l.currentMode = .unknown ↔ result ≠ some SRT_ERROR
  | .closeAllClientSockets (.stop _ result) _ =>
      l.Stopping .server ∧ result ≠ some SRT_ERROR
  | .callback (.sweep (.stop _ result) _) _ =>
      l.Stopping .server ∧ result ≠ some SRT_ERROR
  | _ => True

/-- The session fields agree with each other and with the threads that exist. -/
structure Lifecycle (σ : State) : Prop where
  handle_worker : ∀ w, σ.workerThread = some w →
    w = .worker σ.session ∧ σ.currentMode ≠ .unknown
  handle_event : ∀ e, σ.eventThread = some e →
    e = .event σ.session ∧ σ.currentMode = .server
  worker_alive : ∀ k, (σ.pc (.worker k)).kind = .accept ∨
    (σ.pc (.worker k)).kind = .client → σ.workerThread = some (.worker k)
  event_alive : ∀ k, (σ.pc (.event k)).kind = .event → σ.eventThread = some (.event k)
  accept_mode : ∀ k, (σ.pc (.worker k)).kind = .accept → σ.currentMode = .server
  client_mode : ∀ k, (σ.pc (.worker k)).kind = .client → σ.currentMode = .client
  unspawned : ∀ k, (σ.pc (.worker k)).beforeSpawn = true → σ.eventThread = none
  server_flag : σ.serverActive = true → σ.currentMode = .server
  client_flag : σ.clientActive = true → σ.currentMode = .client
  phase : ∀ t, σ.netMtx = some t → Phase σ.life (σ.pc t)

/-- At most the activity flags went down. -/
structure Life.Lowered (l l' : Life) : Prop where
  server : l'.serverActive = true → l.serverActive = true
  client : l'.clientActive = true → l.clientActive = true
  worker : l'.workerThread = l.workerThread
  mode : l'.currentMode = l.currentMode

theorem Life.Lowered.refl (l : Life) : l.Lowered l :=
  ⟨id, id, rfl, rfl⟩

theorem Life.Stopping.lowered {l l' : Life} {mode : Mode} (h : l.Stopping mode)
    (hl : l.Lowered l') : l'.Stopping mode := by
  refine ⟨h.mode_ne, hl.mode.trans h.mode_eq, ?_, ?_⟩
  · refine Bool.eq_false_iff.mpr fun hs => ?_
    exact absurd (hl.server hs) (by simp [h.server])
  · refine Bool.eq_false_iff.mpr fun hc => ?_
    exact absurd (hl.client hc) (by simp [h.client])

theorem Life.Stopping.ne_unknown {l : Life} {mode : Mode} (h : l.Stopping mode) :
    l.currentMode ≠ .unknown := by
  rw [h.mode_eq]
  exact h.mode_ne

/-- What the owner of `net_mtx_` knows survives a lowered flag. -/
theorem Phase.lowered {l l' : Life} {p : Pc} (h : Phase l p) (hl : l.Lowered l') :
    Phase l' p := by
  unfold Phase at h ⊢
  split at h
  · rw [hl.mode]
    exact h
  · exact h.lowered hl
  · exact ⟨h.1.lowered hl, h.2⟩
  · exact ⟨h.1.lowered hl, h.2.1, hl.worker.trans h.2.2⟩
  · rw [hl.mode]
    exact h
  · exact ⟨h.1.lowered hl, h.2⟩
  · exact ⟨h.1.lowered hl, h.2⟩
  · trivial

/-- A session thread only ever runs the code it was created with. -/
theorem KindStep.of_session {t : Tid} {k k' : Kind} (h : KindStep t k k')
    (hk : k' = .accept ∨ k' = .client ∨ k' = .event) : k = k' := by
  cases h <;> simp_all

section

variable {cb : Callbacks} {σ σ' : State} {t : Tid} {i : Input}

/-- Moves that leave the session fields alone, or lower a flag. -/
theorem Lifecycle.quiet (h : Lifecycle σ) (hshape : Shape σ t σ')
    (hlife : σ.life.Lowered σ'.life) (het : σ'.eventThread = σ.eventThread)
    (hsession : σ'.session = σ.session) {q : Pc}
    (hq : σ'.pc = Function.update σ.pc t q)
    (hphase : σ'.netMtx = some t → Phase σ'.life q)
    (hnet : ∀ u, u ≠ t → σ'.netMtx = some u → σ.netMtx = some u) : Lifecycle σ' := by
  have hwt : σ'.workerThread = σ.workerThread := hlife.worker
  have hmode : σ'.currentMode = σ.currentMode := hlife.mode
  obtain ⟨p, hpc, hkind, hspawn⟩ : ∃ p, σ'.pc = Function.update σ.pc t p ∧
      KindStep t (σ.pc t).kind p.kind ∧
      (p.beforeSpawn = true → (σ.pc t).beforeSpawn = true) := by
    cases hshape with
    | still hpc _ =>
        exact ⟨σ.pc t, by rw [hpc, Function.update_eq_self], .same _ _, id⟩
    | goto p hpc _ hkind hspawn => exact ⟨p, hpc, hkind, hspawn⟩
    | spawnWorker p q _ hs => omega
    | spawnEvent k p q _ _ _ _ _ _ hhandle => simp [hhandle] at het
  have hkinds : ∀ u, (σ'.pc u).kind = .accept ∨ (σ'.pc u).kind = .client ∨
      (σ'.pc u).kind = .event → (σ.pc u).kind = (σ'.pc u).kind := by
    intro u hu
    rw [hpc] at hu ⊢
    by_cases hut : u = t
    · subst hut
      simp only [Function.update_self] at hu ⊢
      exact hkind.of_session hu
    · rw [Function.update_of_ne hut]
  constructor
  · rw [hwt, hsession, hmode]
    exact h.handle_worker
  · rw [het, hsession, hmode]
    exact h.handle_event
  · intro k hk
    rw [hwt]
    exact h.worker_alive k (hkinds (.worker k) (by tauto) ▸ hk)
  · intro k hk
    rw [het]
    exact h.event_alive k (hkinds (.event k) (by tauto) ▸ hk)
  · intro k hk
    rw [hmode]
    exact h.accept_mode k (hkinds (.worker k) (by tauto) ▸ hk)
  · intro k hk
    rw [hmode]
    exact h.client_mode k (hkinds (.worker k) (by tauto) ▸ hk)
  · intro k hk
    rw [het]
    refine h.unspawned k ?_
    rw [hpc] at hk
    by_cases hkt : Tid.worker k = t
    · subst hkt
      exact hspawn (by simpa using hk)
    · rwa [Function.update_of_ne hkt] at hk
  · intro hs
    rw [hmode]
    exact h.server_flag (hlife.server hs)
  · intro hc
    rw [hmode]
    exact h.client_flag (hlife.client hc)
  · intro u hu
    by_cases hut : u = t
    · subst hut
      rw [hq, Function.update_self]
      exact hphase hu
    · rw [hpc, Function.update_of_ne hut]
      exact (h.phase u (hnet u hut hu)).lowered hlife

theorem Silent.phase {l : Life} {p p' : Pc} (hs : Silent p p') (h : Phase l p) :
    Phase l p' := by
  cases hs with
  | startResolve => simp [Phase, StartPc.working]
  | startWork call hw hw' => exact fun _ => h (.inr hw)
  | sweepResume caller rest => cases caller <;> exact h
  | lockFree site => exact h
  | _ => trivial

theorem callback_phase {l : Life} {site : CallbackSite} {pc pc' : CallbackPc}
    (h : Phase l (.callback site pc)) : Phase l (.callback site pc') := by
  cases site with
  | sweep caller rest => cases caller <;> exact h
  | _ => trivial

theorem TakesNet.phase {l : Life} {p p' : Pc} (hs : TakesNet p p')
    (hdepth : p.netDepth = 0) : Phase l p' := by
  cases hs with
  | callback site =>
      cases site with
      | sweep caller rest =>
          cases caller with
          | stop dtor result => simp [Pc.netDepth, CallbackSite.netDepth,
              SweepCaller.netDepth] at hdepth
          | waitForSRTClient => trivial
      | _ => trivial
  | start call => simp [Phase, StartPc.working]
  | _ => trivial

theorem Call.enter_phase (l : Life) (c : Call) : Phase l c.enter := by
  cases c <;> simp [Call.enter, Phase, StartPc.working]

theorem ret_phase (l : Life) (call : StartCall) (exit : StartExit)
    (obtained : Option SRTSOCKET) : Phase l (.start call (.ret exit obtained)) := by
  simp [Phase, StartPc.working]

/-- A stopped object has no handles and no flags. -/
theorem Lifecycle.of_unknown (h : Lifecycle σ) (hmode : σ.currentMode = .unknown) :
    σ.serverActive = false ∧ σ.clientActive = false ∧
      σ.workerThread = none ∧ σ.eventThread = none := by
  refine ⟨?_, ?_, ?_, ?_⟩
  · by_contra hflag
    simp [h.server_flag (by simpa using hflag)] at hmode
  · by_contra hflag
    simp [h.client_flag (by simpa using hflag)] at hmode
  · cases hw : σ.workerThread with
    | none => rfl
    | some w => exact absurd hmode (h.handle_worker w hw).2
  · cases he : σ.eventThread with
    | none => rfl
    | some e => simp [(h.handle_event e he).2] at hmode

/-- Without a joinable `worker_thread_` no session worker runs. -/
theorem Lifecycle.no_worker (h : Lifecycle σ) (hw : σ.workerThread = none) (k : Nat) :
    (σ.pc (.worker k)).kind ≠ .accept ∧ (σ.pc (.worker k)).kind ≠ .client := by
  refine ⟨fun hk => ?_, fun hk => ?_⟩
  · simp [h.worker_alive k (.inl hk)] at hw
  · simp [h.worker_alive k (.inr hk)] at hw

/-- Without a joinable `event_thread_` no event thread runs. -/
theorem Lifecycle.no_event (h : Lifecycle σ) (he : σ.eventThread = none) (k : Nat) :
    (σ.pc (.event k)).kind ≠ .event := by
  intro hk
  simp [h.event_alive k hk] at he

theorem Pc.kind_of_beforeSpawn {p : Pc} (h : p.beforeSpawn = true) : p.kind = .accept := by
  cases p with
  | waitForSRTClient pc => rfl
  | _ => simp [Pc.beforeSpawn] at h

/-- The phase of a thread that is known to own `net_mtx_`. -/
theorem Lifecycle.phase_of_depth (h : Lifecycle σ) (hl : Locks σ) {p : Pc}
    (hp : σ.pc t = p) (hdepth : p.netDepth ≠ 0) : σ.netMtx = some t ∧ Phase σ.life p := by
  have howner : σ.netMtx = some t := hl.net.eq_some (by rwa [hp])
  exact ⟨howner, hp ▸ h.phase t howner⟩

/-- A start call publishes its session on an object without one. -/
theorem Lifecycle.at_publish (h : Lifecycle σ) (hl : Locks σ) {call : StartCall}
    (hp : σ.pc t = .start call .publish) :
    σ.currentMode = .unknown ∧ σ.workerThread = none := by
  obtain ⟨-, hphase⟩ := h.phase_of_depth hl hp (by simp [Pc.netDepth])
  have hmode : σ.currentMode = .unknown := hphase (.inr rfl)
  exact ⟨hmode, (h.of_unknown hmode).2.2.1⟩

/-- A `stop` closes the socket of a session in the mode it has read. -/
theorem Lifecycle.at_close (h : Lifecycle σ) (hl : Locks σ) {dtor : Bool} {mode : Mode}
    (hp : σ.pc t = .stop dtor (.srtClose mode)) : σ.life.Stopping mode :=
  (h.phase_of_depth hl hp (by simp [Pc.netDepth])).2

/-- `clientWorker` runs for the newest session. -/
theorem Lifecycle.client_session (h : Lifecycle σ) {k : Nat}
    (hk : (σ.pc (.worker k)).kind = .client) : k = σ.session := by
  have hworker := h.worker_alive k (.inr hk)
  simpa using (h.handle_worker _ hworker).1

/-- A start call publishes its session. -/
theorem Lifecycle.publish (h : Lifecycle σ) (hl : Locks σ) (ht : Threads σ)
    {call : StartCall} {p : Pc} {mode : Mode} (hp : σ.pc t = .start call .publish)
    (hmode : mode = .server ∧ p.kind = .accept ∨ mode = .client ∧ p.kind = .client)
    (hpc : σ'.pc = Function.update (Function.update σ.pc (.worker (σ.session + 1)) p) t
      (.start call (.ret .started (some σ.context))))
    (hnet : σ'.netMtx = σ.netMtx) (hwt : σ'.workerThread = some (.worker (σ.session + 1)))
    (het : σ'.eventThread = σ.eventThread) (hmode' : σ'.currentMode = mode)
    (hsession : σ'.session = σ.session + 1)
    (hsa : σ'.serverActive = (mode == .server) ∨ σ'.serverActive = σ.serverActive)
    (hca : σ'.clientActive = (mode == .client) ∨ σ'.clientActive = σ.clientActive) :
    Lifecycle σ' := by
  have howner : σ.netMtx = some t := hl.net.eq_some (by rw [hp]; simp [Pc.netDepth])
  obtain ⟨hs, hc, hw, he⟩ := h.of_unknown (h.at_publish hl hp).1
  have hne := ht.newWorker_ne hp
  have hnew : σ'.pc (.worker (σ.session + 1)) = p := by
    rw [hpc, Function.update_of_ne hne, Function.update_self]
  have hworkers : ∀ k, k ≠ σ.session + 1 → (σ'.pc (.worker k)).kind ≠ .accept ∧
      (σ'.pc (.worker k)).kind ≠ .client := by
    intro k hk
    rw [hpc]
    by_cases hkt : Tid.worker k = t
    · simp [hkt, Pc.kind]
    · simpa [Function.update_of_ne hkt, hk] using h.no_worker hw k
  constructor
  · intro w hwe
    rw [hwt] at hwe
    obtain rfl := Option.some.inj hwe
    rw [hsession, hmode']
    refine ⟨rfl, ?_⟩
    rcases hmode with ⟨rfl, -⟩ | ⟨rfl, -⟩ <;> simp
  · intro e hee
    simp [het, he] at hee
  · intro k hk
    rw [hwt]
    by_cases hks : k = σ.session + 1
    · rw [hks]
    · have := hworkers k hks
      tauto
  · intro k hk
    rw [hpc] at hk
    by_cases hkt : Tid.event k = t
    · simp [hkt, Pc.kind] at hk
    · exact absurd (by simpa [Function.update_of_ne hkt] using hk) (h.no_event he k)
  · intro k hk
    rw [hmode']
    by_cases hks : k = σ.session + 1
    · rw [hks, hnew] at hk
      rcases hmode with ⟨rfl, -⟩ | ⟨rfl, hclient⟩
      · rfl
      · simp [hk] at hclient
    · exact absurd hk (hworkers k hks).1
  · intro k hk
    rw [hmode']
    by_cases hks : k = σ.session + 1
    · rw [hks, hnew] at hk
      rcases hmode with ⟨rfl, hserver⟩ | ⟨rfl, -⟩
      · simp [hk] at hserver
      · rfl
    · exact absurd hk (hworkers k hks).2
  · intro k _
    rw [het, he]
  · intro hflag
    rcases hsa with hsa | hsa
    · simpa [hmode', hflag] using hsa.symm
    · simp [hsa, hs] at hflag
  · intro hflag
    rcases hca with hca | hca
    · simpa [hmode', hflag] using hca.symm
    · simp [hca, hc] at hflag
  · intro u hu
    rw [hnet, howner] at hu
    obtain rfl := Option.some.inj hu
    rw [hpc, Function.update_self]
    exact ret_phase _ _ _ _

/-- `stop` has joined a session thread and cleared its handle. -/
theorem Lifecycle.join (h : Lifecycle σ) {p : Pc} (howner : σ'.netMtx = some t)
    (hpc : σ'.pc = Function.update σ.pc t p) (hkind : p.kind = .app)
    (hsession : σ'.session = σ.session) (hwt : σ'.workerThread = none)
    (hsa : σ'.serverActive = false) (hca : σ'.clientActive = false)
    (hworkers : ∀ k, (σ.pc (.worker k)).kind ≠ .accept ∧
      (σ.pc (.worker k)).kind ≠ .client)
    (hevents : ∀ k, (σ.pc (.event k)).kind = .event → σ'.eventThread = some (.event k))
    (het : ∀ e, σ'.eventThread = some e →
      σ.eventThread = some e ∧ σ'.currentMode = .server)
    (hphase : Phase σ'.life p) : Lifecycle σ' := by
  have hworkers' : ∀ k, (σ'.pc (.worker k)).kind ≠ .accept ∧
      (σ'.pc (.worker k)).kind ≠ .client := by
    intro k
    rw [hpc]
    by_cases hkt : Tid.worker k = t
    · simp [hkt, hkind]
    · simpa [Function.update_of_ne hkt] using hworkers k
  constructor
  · intro w hw
    simp [hwt] at hw
  · intro e he
    obtain ⟨hold, hmode⟩ := het e he
    rw [hsession]
    exact ⟨(h.handle_event e hold).1, hmode⟩
  · intro k hk
    have := hworkers' k
    tauto
  · intro k hk
    refine hevents k ?_
    rw [hpc] at hk
    by_cases hkt : Tid.event k = t
    · simp [hkt, hkind] at hk
    · simpa [Function.update_of_ne hkt] using hk
  · intro k hk
    exact absurd hk (hworkers' k).1
  · intro k hk
    exact absurd hk (hworkers' k).2
  · intro k hk
    exact absurd (Pc.kind_of_beforeSpawn hk) (hworkers' k).1
  · simp [hsa]
  · simp [hca]
  · intro u hu
    rw [howner] at hu
    obtain rfl := Option.some.inj hu
    rw [hpc, Function.update_self]
    exact hphase

/-- A joined thread is no longer inside its thread function. -/
theorem State.joined.kind_eq {handle : Option Tid} (h : σ.joined handle) {w : Tid}
    (hw : handle = some w) : (σ.pc w).kind = .finished := by
  have hfin := h w hw
  cases hp : σ.pc w <;> simp_all [Pc.isFinished, Pc.kind]

/-- After joining `worker_thread_` no session worker runs. -/
theorem Lifecycle.no_worker_of_joined (h : Lifecycle σ) (hj : σ.joined σ.workerThread)
    (k : Nat) : (σ.pc (.worker k)).kind ≠ .accept ∧ (σ.pc (.worker k)).kind ≠ .client := by
  refine ⟨fun hk => ?_, fun hk => ?_⟩
  · have := hj.kind_eq (h.worker_alive k (.inl hk))
    simp [hk] at this
  · have := hj.kind_eq (h.worker_alive k (.inr hk))
    simp [hk] at this

/-- The event thread is created. -/
theorem Lifecycle.spawn (h : Lifecycle σ) (hl : Locks σ) (ht : Threads σ) {k : Nat}
    {ready : List SRTSOCKET} (hp : σ.pc (.worker k) = .waitForSRTClient .spawn) :
    Lifecycle (({ σ with eventThread := some (.event k) }.goto (.event k)
      (.serverEventHandler (.head ready))).goto (.worker k)
        (.closeAllClientSockets .waitForSRTClient .lock)) := by
  have haccept : (σ.pc (.worker k)).kind = .accept := by rw [hp]; rfl
  have hbefore : (σ.pc (.worker k)).beforeSpawn = true := by rw [hp]; rfl
  have hw := h.worker_alive k (.inl haccept)
  have hmode := h.accept_mode k haccept
  have he := h.unspawned k hbefore
  have hidle := ht.unspawned k hbefore
  obtain ⟨hk, -⟩ := h.handle_worker _ hw
  constructor
  · exact h.handle_worker
  · rintro e heq
    obtain rfl := Option.some.inj heq
    injection hk with hk
    exact ⟨by rw [hk]; rfl, hmode⟩
  · intro j hj
    by_cases hjk : j = k
    · subst hjk
      exact hw
    · exact h.worker_alive j (by simpa [hjk] using hj)
  · intro j hj
    by_cases hjk : j = k
    · rw [hjk]
      rfl
    · exact absurd (by simpa [hjk] using hj) (h.no_event he j)
  · intro j _
    exact hmode
  · intro j hj
    by_cases hjk : j = k
    · subst hjk
      simp [Pc.kind, SweepCaller.kind] at hj
    · exact h.client_mode j (by simpa [hjk] using hj)
  · intro j hj
    by_cases hjk : j = k
    · subst hjk
      simp [Pc.beforeSpawn] at hj
    · have hj' : (σ.pc (.worker j)).kind = .accept :=
        Pc.kind_of_beforeSpawn (by simpa [hjk] using hj)
      have hsame := h.worker_alive j (.inl hj')
      rw [hw] at hsame
      injection hsame with hsame
      injection hsame with hsame
      exact absurd hsame.symm hjk
  · exact h.server_flag
  · exact h.client_flag
  · intro u hu
    have hdepth : (σ.pc u).netDepth = 1 := by simpa [show σ.netMtx = some u from hu] using hl.net u
    have huw : u ≠ .worker k := by
      rintro rfl
      simp [hp, Pc.netDepth] at hdepth
    have hue : u ≠ .event k := by
      rintro rfl
      simp [hidle, Pc.netDepth] at hdepth
    simp only [State.goto_pc, Function.update_of_ne huw, Function.update_of_ne hue]
    exact h.phase u hu

/-- Where `stop` goes after a successful `srt_close(context_)`. -/
theorem afterClose_phase {l : Life} {dtor : Bool} {result : Option Int} {mode : Mode}
    (h : l.Stopping mode) (hr : result ≠ some SRT_ERROR) :
    Phase l (afterClose dtor result mode) := by
  cases mode with
  | unknown => exact absurd rfl h.mode_ne
  | server => exact ⟨h, hr⟩
  | client => exact ⟨h, hr⟩

/-- Moves of a thread that keep what is recorded about the session. -/
theorem Lifecycle.local (h : Lifecycle σ) (hshape : Shape σ t σ') {p q : Pc}
    (hp : σ.pc t = p) (hq : σ'.pc = Function.update σ.pc t q)
    (hview : σ'.lifeView = σ.lifeView) (hphase : Phase σ.life p → Phase σ.life q) :
    Lifecycle σ' := by
  have hlife : σ'.life = σ.life := congrArg LifeView.life hview
  have het : σ'.eventThread = σ.eventThread := congrArg LifeView.eventThread hview
  have hsession : σ'.session = σ.session := congrArg LifeView.session hview
  have hnet : σ'.netMtx = σ.netMtx := congrArg LifeView.netMtx hview
  refine h.quiet hshape (hlife ▸ .refl _) het hsession hq ?_ (fun u _ hu => hnet ▸ hu)
  intro hu
  rw [hlife]
  exact hphase (hp ▸ h.phase t (hnet ▸ hu))

theorem SweepCaller.after_phase {l : Life} {caller : SweepCaller}
    {rest : List (SRTSOCKET × Context)}
    (h : Phase l (.closeAllClientSockets caller (.next rest))) :
    Phase l caller.after := by
  cases caller with
  | stop dtor result => exact h
  | waitForSRTClient => trivial

theorem Lifecycle.move (h : Lifecycle σ) (hl : Locks σ) (ht : Threads σ)
    (hm : Move cb σ t i σ') : Lifecycle σ' := by
  have hshape := hm.shape
  cases hm with
  | silent hp hs => exact h.local hshape hp rfl rfl hs.phase
  | enter c hp =>
      exact h.local hshape hp rfl rfl (fun _ => c.enter_phase _)
  | askStatistics hp => exact h.local hshape hp rfl rfl callback_phase
  | takeNet hp hs hfree =>
      have hdepth := hl.net
      rw [hfree] at hdepth
      refine h.quiet hshape (.refl _) rfl rfl rfl ?_ ?_
      · exact fun _ => hs.phase (hp ▸ hdepth.depth_eq_zero t)
      · intro u hu hnet
        simp only [State.goto_netMtx, Option.some.injEq] at hnet
        exact absurd hnet.symm hu
  | dropNet hp hs => exact h.quiet hshape (.refl _) rfl rfl rfl (by simp) (by simp)
  | startCheck connection client hp hmode =>
      exact h.local hshape hp rfl rfl (fun _ _ => hmode)
  | startRefuse hp hexit =>
      exact h.local hshape hp rfl rfl (fun _ => ret_phase _ _ _ _)
  | createFail hp =>
      exact h.local hshape hp rfl rfl (fun _ => ret_phase _ _ _ _)
  | create hp hpc hs =>
      exact h.local hshape hp rfl rfl (fun hphase _ => hphase (.inl rfl))
  | startLeak hp hpc hleak hexit =>
      exact h.local hshape hp rfl rfl (fun _ => ret_phase _ _ _ _)
  | startClose r hp =>
      exact h.local hshape hp rfl rfl (fun _ => ret_phase _ _ _ _)
  | publishServer hp hfree =>
      exact h.publish hl ht hp (.inl ⟨rfl, rfl⟩) rfl rfl rfl rfl rfl rfl (.inl rfl) (.inr rfl)
  | publishClient hp hfree =>
      exact h.publish hl ht hp (.inr ⟨rfl, rfl⟩) rfl rfl rfl rfl rfl rfl (.inr rfl) (.inl rfl)
  | publishFault server client mode hp hjoinable =>
      exact absurd (h.at_publish hl hp).2 hjoinable
  | stopUnknown hp hmode =>
      refine h.local hshape hp rfl rfl (fun _ => ?_)
      have hlife : σ.life.currentMode = .unknown := hmode
      simpa [Phase] using hlife
  | stopServer hp hmode =>
      have hclient : σ.clientActive = false := by
        by_contra hc
        simp [h.client_flag (by simpa using hc)] at hmode
      exact h.quiet hshape ⟨by simp [State.life], id, rfl, rfl⟩ rfl rfl rfl
        (fun _ => ⟨by simp, hmode, rfl, hclient⟩) (fun _ _ hu => hu)
  | stopClient hp hmode =>
      have hserver : σ.serverActive = false := by
        by_contra hs
        simp [h.server_flag (by simpa using hs)] at hmode
      exact h.quiet hshape ⟨id, by simp [State.life], rfl, rfl⟩ rfl rfl rfl
        (fun _ => ⟨by simp, hmode, hserver, rfl⟩) (fun _ _ hu => hu)
  | stopCloseFail hp hi =>
      refine h.local hshape hp rfl rfl (fun hphase => ?_)
      simpa [Phase] using hphase.ne_unknown
  | stopClose hp hr =>
      exact h.local hshape hp rfl rfl
        (fun hphase => afterClose_phase hphase (by simpa using hr))
  | stopSkipClose hp hcontext =>
      exact h.local hshape hp rfl rfl
        (fun hphase => afterClose_phase hphase (by simp))
  | joinWorkerServer hp hjoin =>
      obtain ⟨howner, hphase, hr⟩ := h.phase_of_depth hl hp (by simp [Pc.netDepth])
      exact h.join howner rfl rfl rfl rfl hphase.server hphase.client
        (h.no_worker_of_joined hjoin) h.event_alive
        (fun e he => ⟨he, hphase.mode_eq⟩)
        ⟨⟨hphase.mode_ne, hphase.mode_eq, hphase.server, hphase.client⟩, hr, rfl⟩
  | joinWorkerClient hp hmode hjoin =>
      obtain ⟨howner, hphase, hr⟩ := h.phase_of_depth hl hp (by simp [Pc.netDepth])
      have hevent : σ.eventThread = none := by
        cases he : σ.eventThread with
        | none => rfl
        | some e => exact absurd (hphase.mode_eq.symm.trans (h.handle_event e he).2) hmode
      exact h.join howner rfl rfl rfl rfl hphase.server hphase.client
        (h.no_worker_of_joined hjoin) h.event_alive
        (fun e he => by simp [hevent] at he) (by simpa [Phase, State.life] using hr)
  | joinEvent hp hjoin =>
      obtain ⟨howner, hphase, hr, hwt⟩ := h.phase_of_depth hl hp (by simp [Pc.netDepth])
      refine h.join howner rfl rfl rfl hwt hphase.server hphase.client (h.no_worker hwt)
        (fun k hk => ?_) (fun e he => by simp at he) (by simpa [Phase, State.life] using hr)
      have := hjoin.kind_eq (h.event_alive k hk)
      simp [hk] at this
  | destroy hp =>
      exact h.quiet hshape (.refl _) rfl rfl rfl (by simp [destroyMembers, unlockNet])
        (by simp [destroyMembers, unlockNet])
  | sweepLock hp hfree =>
      rename_i caller
      exact h.local hshape hp rfl rfl (by cases caller <;> exact id)
  | sweepReport r hp hcb =>
      rename_i caller _ _ _
      exact h.local hshape hp rfl rfl (by cases caller <;> exact id)
  | sweepQuiet r hp hcb =>
      rename_i caller _ _ _
      exact h.local hshape hp rfl rfl (by cases caller <;> exact id)
  | sweepClear hp =>
      exact h.local hshape hp rfl rfl SweepCaller.after_phase
  | spawnEvent ready hp hfree => exact h.spawn hl ht hp
  | spawnFault hp hjoinable =>
      exact absurd (h.unspawned _ (by rw [hp]; rfl)) hjoinable
  | readEnd hp =>
      exact h.local hshape hp (by simp [← hp]) rfl id
  | clientDone hp =>
      exact h.quiet hshape ⟨id, by simp [State.life], rfl, rfl⟩ rfl rfl rfl
        (fun _ => trivial) (fun _ _ hu => hu)
  | _ => exact h.local hshape (by assumption) rfl rfl (fun _ => trivial)

end

/-- In every reachable state the session fields agree with the threads that exist. -/
theorem lifecycle_reachable {cb : Callbacks} {ok : State → Tid × Input → Prop}
    {σ : State} (h : (system cb).ReachableUnder ok σ) : Lifecycle σ := by
  refine invariant_of_moves (P := Lifecycle) ?_ ?_ h
  · constructor <;> simp [State.init, Pc.kind, Pc.beforeSpawn]
  · intro σ t i σ' hreach hs _ _ hm
    exact hs.move (locks_reachable hreach) (threads_reachable hreach) hm

/-! ## `stop` past its `srt_close` -/

/-- `closeAllClientSockets` was called by `stop`. -/
def SweepCaller.isStop : SweepCaller → Bool
  | .stop _ _ => true
  | .waitForSRTClient => false

/-- The callback was invoked from a `closeAllClientSockets` of `stop`. -/
def CallbackSite.isStop : CallbackSite → Bool
  | .sweep caller _ => caller.isStop
  | _ => false

/-- `stop` after a successful `srt_close(context_)`: it will take
`client_list_mtx_` and join the session threads. -/
def Pc.pastClose : Pc → Bool
  | .stop _ (.joinWorker _ _) => true
  | .stop _ (.joinEvent _) => true
  | .closeAllClientSockets caller _ => caller.isStop
  | .callback site _ => site.isStop
  | _ => false

/-- `stop` is about to close its socket. -/
def Pc.atClose : Pc → Bool
  | .stop _ (.srtClose _) => true
  | _ => false

/-- The answer `SRT_ERROR`. -/
def Input.isError : Input → Bool
  | .answer r => r == SRT_ERROR
  | _ => false

/-- A callback calls `getStatistics`. -/
def Input.isAsk : Input → Bool
  | .askStatistics _ => true
  | _ => false

section

variable {cb : Callbacks} {σ σ' : State} {t : Tid} {i : Input}

theorem SweepCaller.netDepth_eq (caller : SweepCaller) :
    caller.netDepth = if caller.isStop then 1 else 0 := by
  cases caller <;> rfl

theorem CallbackSite.netDepth_eq (site : CallbackSite) :
    site.netDepth = if site.isStop then 1 else 0 := by
  cases site with
  | sweep caller rest => exact caller.netDepth_eq
  | _ => rfl

theorem Pc.pastClose_netDepth {p : Pc} (h : p.pastClose = true) : p.netDepth ≠ 0 := by
  cases p with
  | stop dtor pc => cases pc <;> simp_all [Pc.pastClose, Pc.netDepth]
  | closeAllClientSockets caller pc =>
      simp_all [Pc.pastClose, Pc.netDepth, SweepCaller.netDepth_eq]
  | callback site pc => simp_all [Pc.pastClose, Pc.netDepth, CallbackSite.netDepth_eq]
  | _ => simp [Pc.pastClose] at h

/-- A `stop` gets past its `srt_close` only by a successful one. -/
theorem Move.pastClose (hm : Move cb σ t i σ') {u : Tid}
    (hu : (σ'.pc u).pastClose = true) :
    (σ.pc u).pastClose = true ∨
      (σ.pc t).atClose = true ∧ i.isError = false ∧ i.isAsk = false := by
  have hgoto : ∀ {pc : Tid → Pc} {w : Tid} {p : Pc},
      (p.pastClose = true → (pc w).pastClose = true) →
      (Function.update pc w p u).pastClose = true → (pc u).pastClose = true := by
    intro pc w p hp hu
    rcases of_update (P := fun p => p.pastClose = true) hu with ⟨rfl, hnew⟩ | hold
    · exact hp hnew
    · exact hold
  have hfalse : ∀ {pc : Tid → Pc} {w : Tid} {p : Pc}, p.pastClose = false →
      (Function.update pc w p u).pastClose = true → (pc u).pastClose = true :=
    fun hp => hgoto (fun h => absurd h (by simp [hp]))
  cases hm with
  | silent hp hs =>
      refine .inl (hgoto (fun h => ?_) hu)
      rw [hp]
      cases hs <;> exact h
  | enter c hp => exact .inl (hfalse (by cases c <;> rfl) hu)
  | askStatistics hp => exact .inl (hgoto (fun h => by rw [hp]; exact h) hu)
  | takeNet hp hs hfree =>
      refine .inl (hgoto (fun h => ?_) hu)
      rw [hp]
      cases hs <;> exact h
  | dropNet hp hs =>
      refine .inl (hgoto (fun h => ?_) hu)
      rw [hp]
      cases hs <;> exact h
  | publishServer => exact .inl (hfalse rfl (hfalse rfl hu))
  | publishClient => exact .inl (hfalse rfl (hfalse rfl hu))
  | publishFault => exact .inl hu
  | stopClose hp hr =>
      refine .inr ⟨by rw [hp]; rfl, ?_, rfl⟩
      simpa [Input.isError] using hr
  | stopSkipClose hp hcontext => exact .inr ⟨by rw [hp]; rfl, rfl, rfl⟩
  | joinWorkerServer hp hjoin => exact .inl (hgoto (fun _ => by rw [hp]; rfl) hu)
  | sweepLock hp hfree => exact .inl (hgoto (fun h => by rw [hp]; exact h) hu)
  | sweepReport r hp hcb => exact .inl (hgoto (fun h => by rw [hp]; exact h) hu)
  | sweepQuiet r hp hcb => exact .inl (hgoto (fun h => by rw [hp]; exact h) hu)
  | sweepClear hp =>
      rename_i caller
      refine .inl (hgoto (fun h => ?_) hu)
      rw [hp]
      cases caller <;> exact h
  | spawnEvent => exact .inl (hfalse rfl (hfalse rfl hu))
  | spawnFault => exact .inl hu
  | readEnd => exact .inl hu
  | _ => exact .inl (hfalse rfl hu)

theorem Pc.atClose_netDepth {p : Pc} (h : p.atClose = true) :
    p.netDepth ≠ 0 ∧ p.pastClose = false := by
  cases p with
  | stop dtor pc => cases pc <;> simp_all [Pc.atClose, Pc.netDepth, Pc.pastClose]
  | _ => simp [Pc.atClose] at h

end

/-! ## One session at a time -/

/-- A session thread is running, or its handle is still joinable. -/
def State.exists (σ : State) (t : Tid) : Prop :=
  σ.workerThread = some t ∨ σ.eventThread = some t ∨
    (σ.pc t).kind = .accept ∨ (σ.pc t).kind = .client ∨ (σ.pc t).kind = .event

/-- The session a thread belongs to. -/
def Tid.session : Tid → Option Nat
  | .app _ => none
  | .worker k => some k
  | .event k => some k

theorem Lifecycle.session_eq {σ : State} (h : Lifecycle σ) (ht : Threads σ) {t : Tid}
    (hex : σ.exists t) : t.session = some σ.session := by
  have hworker : σ.workerThread = some t → t.session = some σ.session := by
    intro hw
    rw [(h.handle_worker t hw).1]
    rfl
  have hevent : σ.eventThread = some t → t.session = some σ.session := by
    intro he
    rw [(h.handle_event t he).1]
    rfl
  have hruns := ht.runs t
  rcases hex with hw | he | hk | hk | hk
  · exact hworker hw
  · exact hevent he
  · cases t with
    | worker k => exact hworker (h.worker_alive k (.inl hk))
    | _ => simp [hk, Tid.runs] at hruns
  · cases t with
    | worker k => exact hworker (h.worker_alive k (.inr hk))
    | _ => simp [hk, Tid.runs] at hruns
  · cases t with
    | event k => exact hevent (h.event_alive k hk)
    | _ => simp [hk, Tid.runs] at hruns

/-- A thread inside a session's code is joinable. -/
theorem Lifecycle.handle_of_running {σ : State} (h : Lifecycle σ) (ht : Threads σ) {t : Tid}
    (hidle : (σ.pc t).kind ≠ .idle) (happ : (σ.pc t).kind ≠ .app)
    (hfin : (σ.pc t).kind ≠ .finished) :
    σ.workerThread = some t ∨ σ.eventThread = some t := by
  have hruns := ht.runs t
  cases t with
  | app n => cases hk : (σ.pc (.app n)).kind <;> simp_all [Tid.runs]
  | worker k =>
      left
      refine h.worker_alive k ?_
      cases hk : (σ.pc (.worker k)).kind <;> simp_all [Tid.runs]
  | event k =>
      right
      refine h.event_alive k ?_
      cases hk : (σ.pc (.event k)).kind <;> simp_all [Tid.runs]

/-- No thread handle is ever overwritten while it is joinable. -/
theorem halted_ne_assignedJoinable {cb : Callbacks} {ok : State → Tid × Input → Prop}
    {σ : State} (h : (system cb).ReachableUnder ok σ) :
    σ.halted ≠ some .assignedJoinable := by
  refine invariant_of_moves (P := fun σ => σ.halted ≠ some .assignedJoinable)
    (by simp [State.init]) ?_ h
  intro σ t i σ' hreach hs _ _ hm
  have hlife := lifecycle_reachable hreach
  cases hm with
  | publishFault server client mode hp hjoinable =>
      exact absurd (hlife.at_publish (locks_reachable hreach) hp).2 hjoinable
  | spawnFault hp hjoinable => exact absurd (hlife.unspawned _ (by rw [hp]; rfl)) hjoinable
  | destroy hp =>
      simp only [destroyMembers]
      split <;> simp
  | readEnd => simp
  | _ => exact hs

/-- **Lifecycle.**  In every reachable state an object without a mode has no
flag and no joinable handle, the flags fit the mode, no handle has been
overwritten, all session threads belong to the newest session, and a
`clientWorker` that is about to clear `client_active_` is the newest one. -/
theorem lifecycle_invariant {cb : Callbacks} {σ : State}
    (h : (system cb).Reachable σ) :
    (σ.currentMode = .unknown → σ.serverActive = false ∧ σ.clientActive = false ∧
      σ.workerThread = none ∧ σ.eventThread = none) ∧
    (σ.serverActive = true → σ.currentMode = .server) ∧
    (σ.clientActive = true → σ.currentMode = .client) ∧
    σ.halted ≠ some .assignedJoinable ∧
    (∀ t, σ.exists t → t.session = some σ.session) ∧
    (∀ k, σ.pc (.worker k) = .clientWorker .exit → k = σ.session) := by
  have hlife := lifecycle_reachable h
  have hsession := fun t => hlife.session_eq (threads_reachable h) (t := t)
  refine ⟨hlife.of_unknown, hlife.server_flag, hlife.client_flag,
    halted_ne_assignedJoinable h, hsession, ?_⟩
  intro k hk
  have hexists : σ.exists (.worker k) := by simp [State.exists, hk, Pc.kind]
  exact Option.some.inj (hsession _ hexists)

/-- The peer of a second client session has closed: its worker is about to
clear the flag, and no older thread is left. -/
theorem lifecycle_invariant_second_session :
    ∃ σ, (system allCallbacks).Reachable σ ∧
      σ.pc (.worker 2) = .clientWorker .exit ∧ σ.session = 2 ∧
      ∀ t, σ.exists t → t.session = some 2 :=
  ⟨_, StepSystem.reachable_get
      (startClientRun (.app 0) (testClient 7) 5 ++
        schedule (.app 0) [.call .stop, .tau, .tau, .answer 0] ++
        schedule (.worker 1) [.tau, .tau] ++ schedule (.app 0) [.tau, .tau] ++
        startClientRun (.app 0) (testClient 8) 6 ++
        schedule (.worker 2) [.tau, .answer SRT_ERROR, .done]) rfl,
    rfl, rfl, (lifecycle_invariant (StepSystem.reachable_get _ rfl)).2.2.2.2.1⟩

/-! ## What a returning `stop` leaves behind -/

end SrtNet
