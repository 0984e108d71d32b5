import Xrtc.SrtNetLifecycle

/-!
# The socket a start call obtains

Which sockets SRT has handed out and which have been given back, read off the
history.  A session's `context_` is a socket obtained by `srt_create_socket`.
Every other created socket has been closed, unless a start call left through
one of the exits that forget to.
-/

namespace SrtNet

/-! ## Reading the history -/

/-- The socket `srt_create_socket` returned. -/
def Event.created : Event → Option SRTSOCKET
  | .srtCreateSocket s => some s
  | _ => none

/-- The socket `srt_accept` returned. -/
def Event.accepted : Event → Option SRTSOCKET
  | .srtAccept s => some s
  | _ => none

/-- The socket passed to `srt_close`. -/
def Event.closed : Event → Option SRTSOCKET
  | .srtClose s _ => some s
  | _ => none

namespace State

/-- The sockets `srt_create_socket` returned, newest first. -/
def created (σ : State) : List SRTSOCKET := σ.trace.filterMap Event.created

/-- The sockets `srt_accept` returned, newest first. -/
def accepted (σ : State) : List SRTSOCKET := σ.trace.filterMap Event.accepted

/-- The sockets passed to `srt_close`, newest first. -/
def closes (σ : State) : List SRTSOCKET := σ.trace.filterMap Event.closed

variable {σ : State} {s : SRTSOCKET}

theorem mem_created : s ∈ σ.created ↔ .srtCreateSocket s ∈ σ.trace := by
  simp only [created, List.mem_filterMap]
  constructor
  · rintro ⟨e, he, hs⟩
    cases e <;> simp_all [Event.created]
  · exact fun h => ⟨_, h, rfl⟩

theorem mem_accepted : s ∈ σ.accepted ↔ .srtAccept s ∈ σ.trace := by
  simp only [accepted, List.mem_filterMap]
  constructor
  · rintro ⟨e, he, hs⟩
    cases e <;> simp_all [Event.accepted]
  · exact fun h => ⟨_, h, rfl⟩

theorem mem_closes : s ∈ σ.closes ↔ ∃ r, .srtClose s r ∈ σ.trace := by
  simp only [closes, List.mem_filterMap]
  constructor
  · rintro ⟨e, he, hs⟩
    cases e <;> simp_all [Event.closed]
    exact ⟨_, he⟩
  · rintro ⟨r, h⟩
    exact ⟨_, h, rfl⟩

theorem mem_sockets : s ∈ σ.sockets ↔ s ∈ σ.created ∨ s ∈ σ.accepted := by
  rw [mem_created, mem_accepted]
  simp only [sockets, List.mem_filterMap]
  constructor
  · rintro ⟨e, he, hs⟩
    cases e <;> simp_all
  · rintro (h | h)
    · exact ⟨_, h, rfl⟩
    · exact ⟨_, h, rfl⟩

theorem count_sockets (σ : State) (s : SRTSOCKET) :
    σ.sockets.count s = σ.created.count s + σ.accepted.count s := by
  unfold sockets created accepted
  induction σ.trace with
  | nil => rfl
  | cons e rest ih =>
      cases e with
      | srtCreateSocket s' =>
          simp only [List.filterMap_cons, Event.created, Event.accepted, List.count_cons, ih]
          omega
      | srtAccept s' =>
          simp only [List.filterMap_cons, Event.created, Event.accepted, List.count_cons, ih]
          omega
      | _ => exact ih

end State

/-! ## `context_` is a created socket -/

/-- A start call that holds a socket of its own. -/
def Pc.working : Pc → Bool
  | .start _ pc => pc.working
  | _ => false

theorem Pc.working_netDepth {p : Pc} (h : p.working = true) : p.netDepth ≠ 0 := by
  cases p with
  | start call pc => simp [StartPc.working_netDepth call h]
  | _ => simp [Pc.working] at h

theorem Silent.working_eq {p p' : Pc} (h : Silent p p') : p'.working = p.working := by
  cases h with
  | startWork call h h' => exact h'.trans h.symm
  | _ => rfl

/-- The object's socket and all it has created. -/
structure OwnSockets where
  context : SRTSOCKET
  created : List SRTSOCKET

/-- The object's socket and all it has created. -/
def State.ownSockets (σ : State) : OwnSockets where
  context := σ.context
  created := σ.created

/-- Ids are positive and handed out once, and the object's socket is one of
those it created. -/
structure Sockets (σ : State) : Prop where
  pos : ∀ s ∈ σ.sockets, 0 < s
  nodup : σ.sockets.Nodup
  context : σ.currentMode ≠ .unknown ∨ (∃ t, (σ.pc t).working = true) →
    σ.context ∈ σ.created

section

variable {cb : Callbacks} {σ σ' : State} {t : Tid} {i : Input}

/-- Moves that obtain no socket. -/
theorem Sockets.quiet (h : Sockets σ) {q : Pc} (hpc : σ'.pc = Function.update σ.pc t q)
    (hown : σ'.ownSockets = σ.ownSockets) (hsockets : σ'.sockets = σ.sockets)
    (hwork : q.working = true → (σ.pc t).working = true)
    (hmode : σ'.currentMode ≠ .unknown → σ.currentMode ≠ .unknown) : Sockets σ' := by
  have hcontext : σ'.context = σ.context := congrArg OwnSockets.context hown
  have hcreated : σ'.created = σ.created := congrArg OwnSockets.created hown
  refine ⟨hsockets ▸ h.pos, hsockets ▸ h.nodup, ?_⟩
  rintro (hm | ⟨u, hu⟩) <;> rw [hcontext, hcreated]
  · exact h.context (.inl (hmode hm))
  · rw [hpc] at hu
    rcases of_update (P := fun p => p.working = true) hu with ⟨-, hq⟩ | hold
    · exact h.context (.inr ⟨t, hwork hq⟩)
    · exact h.context (.inr ⟨u, hold⟩)

/-- A session is published by a call that holds its socket. -/
theorem Sockets.publish (h : Sockets σ) {call : StartCall}
    (hp : σ.pc t = .start call .publish) (hown : σ'.ownSockets = σ.ownSockets)
    (hsockets : σ'.sockets = σ.sockets) : Sockets σ' := by
  have hcontext : σ'.context = σ.context := congrArg OwnSockets.context hown
  have hcreated : σ'.created = σ.created := congrArg OwnSockets.created hown
  refine ⟨hsockets ▸ h.pos, hsockets ▸ h.nodup, fun _ => ?_⟩
  rw [hcontext, hcreated]
  exact h.context (.inr ⟨t, by rw [hp]; rfl⟩)

/-- Before it obtains a socket, a start call owns `net_mtx_` of an object
without a mode. -/
theorem no_session_at_create (hl : Locks σ) (hlife : Lifecycle σ) {call : StartCall}
    (hp : σ.pc t = .start call .create) :
    σ.currentMode = .unknown ∧ ∀ u, (σ.pc u).working = false := by
  obtain ⟨-, hphase⟩ := hlife.phase_of_depth hl hp (by simp [Pc.netDepth])
  refine ⟨hphase (.inl rfl), fun u => ?_⟩
  by_contra hu
  rw [Bool.not_eq_false] at hu
  have hut : u = t := hl.net.unique (by rw [hp]; simp [Pc.netDepth]) (Pc.working_netDepth hu)
  rw [hut, hp] at hu
  simp [Pc.working, StartPc.working] at hu

theorem Sockets.move (h : Sockets σ) (hl : Locks σ) (hlife : Lifecycle σ)
    (hm : Move cb σ t i σ') : Sockets σ' := by
  cases hm with
  | silent hp hs =>
      exact h.quiet rfl rfl rfl (by rw [hp, hs.working_eq]; exact id) id
  | enter c hp =>
      exact h.quiet rfl rfl rfl
        (by cases c <;> simp [Call.enter, Pc.working, StartPc.working]) id
  | takeNet hp hs hfree =>
      exact h.quiet rfl rfl rfl (by cases hs <;> simp [Pc.working, StartPc.working]) id
  | dropNet hp hs =>
      exact h.quiet rfl rfl rfl (by cases hs <;> simp [Pc.working]) id
  | createFail hp =>
      obtain ⟨hmode, hwork⟩ := no_session_at_create hl hlife hp
      refine ⟨h.pos, h.nodup, ?_⟩
      rintro (hne | ⟨u, hu⟩)
      · exact absurd hmode hne
      · rcases of_update (P := fun p => p.working = true) hu with ⟨-, hq⟩ | hold
        · simp [Pc.working, StartPc.working] at hq
        · simp [hwork u] at hold
  | create hp hpc hs =>
      refine ⟨?_, List.nodup_cons.mpr ⟨hs.2, h.nodup⟩, fun _ => List.mem_cons_self⟩
      intro s' hs'
      rcases List.mem_cons.mp hs' with rfl | hold
      · exact hs.1
      · exact h.pos s' hold
  | publishServer hp => exact h.publish hp rfl rfl
  | publishClient hp => exact h.publish hp rfl rfl
  | publishFault server client mode hp => exact h.publish hp rfl rfl
  | stopClose hp hr =>
      rename_i mode _
      exact h.quiet rfl rfl rfl (by cases mode <;> simp [afterClose, Pc.working]) id
  | stopSkipClose hp hcontext =>
      rename_i mode
      exact h.quiet rfl rfl rfl (by cases mode <;> simp [afterClose, Pc.working]) id
  | joinWorkerClient hp hmode hjoin =>
      exact h.quiet rfl rfl rfl (by simp [Pc.working]) (by simp)
  | joinEvent hp hjoin =>
      exact h.quiet rfl rfl rfl (by simp [Pc.working]) (by simp)
  | sweepClear hp =>
      rename_i caller
      exact h.quiet rfl rfl rfl (by cases caller <;> simp [SweepCaller.after, Pc.working]) id
  | spawnEvent ready hp hfree =>
      rename_i k
      have hmid : Sockets ({ σ with eventThread := some (.event k) }.goto (.event k)
          (.serverEventHandler (.head ready))) :=
        h.quiet rfl rfl rfl (by simp [Pc.working]) id
      exact hmid.quiet rfl rfl rfl (by simp [Pc.working]) id
  | spawnFault => exact ⟨h.pos, h.nodup, h.context⟩
  | readEnd => exact ⟨h.pos, h.nodup, h.context⟩
  | accept hp hs =>
      refine ⟨?_, List.nodup_cons.mpr ⟨hs.2, h.nodup⟩, ?_⟩
      · intro s' hs'
        rcases List.mem_cons.mp hs' with rfl | hold
        · exact hs.1
        · exact h.pos s' hold
      · rintro (hne | ⟨u, hu⟩)
        · exact h.context (.inl hne)
        · rcases of_update (P := fun p => p.working = true) hu with ⟨-, hq⟩ | hold
          · simp [Pc.working] at hq
          · exact h.context (.inr ⟨u, hold⟩)
  | _ => exact h.quiet rfl rfl rfl (by simp [Pc.working, StartPc.working]) id

theorem sockets_reachable {ok : State → Tid × Input → Prop}
    (h : (system cb).ReachableUnder ok σ) : Sockets σ := by
  refine invariant_of_moves (P := Sockets) ?_ ?_ h
  · exact ⟨by simp [State.sockets, State.init], by simp [State.sockets, State.init],
      by simp [State.init, Pc.working]⟩
  · intro σ t i σ' hreach hs _ _ hm
    exact hs.move (locks_reachable hreach) (lifecycle_reachable hreach) hm

/-- `context_` is a positive id throughout a session. -/
theorem Sockets.context_ne_zero (h : Sockets σ) (hmode : σ.currentMode ≠ .unknown) :
    σ.context ≠ 0 := by
  have hcreated := h.context (.inl hmode)
  have hpos := h.pos _ (State.mem_sockets.mpr (.inl hcreated))
  exact (Int.ne_of_lt hpos).symm

/-- `srt_accept` returns a socket once. -/
theorem Sockets.nodup_accepted (h : Sockets σ) : σ.accepted.Nodup := by
  rw [List.nodup_iff_count_le_one]
  intro s
  have hone := List.nodup_iff_count_le_one.mp h.nodup s
  rw [σ.count_sockets s] at hone
  omega

/-- An accepted socket was not created. -/
theorem Sockets.not_created (h : Sockets σ) {s : SRTSOCKET} (hs : s ∈ σ.accepted) :
    s ∉ σ.created := by
  have hone := List.nodup_iff_count_le_one.mp h.nodup s
  have hpos := List.count_pos_iff.mpr hs
  rw [σ.count_sockets s] at hone
  rw [← List.count_eq_zero]
  omega

/-! ## Every created socket is closed -/

/-- The socket a start call obtained and is about to report a failure for. -/
def Pc.failedWith : Pc → Option SRTSOCKET
  | .start _ (.ret exit obtained) => if exit.value then none else obtained
  | _ => none

/-- The answers on which a start call leaves without closing its socket. -/
def Pc.leaks : Pc → Input → Bool
  | .start _ pc, i => pc.leaks i
  | _, _ => false

/-- The step is not a failing `srt_setsockflag` or `getaddrinfo` of a start
call. -/
def NoLeak (σ : State) (ti : Tid × Input) : Prop :=
  (σ.pc ti.1).leaks ti.2 = false

instance (σ : State) (ti : Tid × Input) : Decidable (NoLeak σ ti) :=
  inferInstanceAs (Decidable ((σ.pc ti.1).leaks ti.2 = false))

/-- A created socket has been closed, or it is the `context_` of a session or
of a start call in progress. -/
structure Ledger (σ : State) : Prop where
  created : ∀ s ∈ σ.created, s ∈ σ.closes ∨
    s = σ.context ∧ (σ.currentMode ≠ .unknown ∨ ∃ t, (σ.pc t).working = true)
  stopped : ∀ t, (σ.pc t).pastClose = true → σ.context ∈ σ.closes
  failed : ∀ t, ∀ s ∈ (σ.pc t).failedWith, s ∈ σ.closes

/-- Moves that neither obtain a socket nor give up the object's own. -/
theorem Ledger.quiet (h : Ledger σ) (hm : Move cb σ t i σ') {q : Pc}
    (hpc : σ'.pc = Function.update σ.pc t q) (hown : σ'.ownSockets = σ.ownSockets)
    (hmode : σ'.currentMode = σ.currentMode) (hwork : q.working = (σ.pc t).working)
    (hfail : q.failedWith = none) (hclose : (σ.pc t).atClose = false)
    (hcloses : ∀ s ∈ σ.closes, s ∈ σ'.closes) : Ledger σ' := by
  have hcontext : σ'.context = σ.context := congrArg OwnSockets.context hown
  have hcreated : σ'.created = σ.created := congrArg OwnSockets.created hown
  refine ⟨?_, ?_, ?_⟩
  · intro s hs
    rw [hcreated] at hs
    rw [hcontext, hmode]
    refine (h.created s hs).imp (hcloses s) (And.imp_right (Or.imp_right ?_))
    rintro ⟨u, hu⟩
    refine ⟨u, ?_⟩
    rw [hpc]
    by_cases hut : u = t
    · subst hut
      simpa [hwork] using hu
    · rwa [Function.update_of_ne hut]
  · intro u hu
    rw [hcontext]
    rcases hm.pastClose hu with hpast | ⟨hat, -⟩
    · exact hcloses _ (h.stopped u hpast)
    · simp [hclose] at hat
  · intro u s hs
    rw [hpc] at hs
    rcases of_update (P := fun p => p.failedWith = some s) hs with ⟨-, hq⟩ | hold
    · simp [hfail] at hq
    · exact hcloses s (h.failed u s hold)

/-- Moves after which the object's own socket has been closed. -/
theorem Ledger.closed (h : Ledger σ) {q : Pc} (hpc : σ'.pc = Function.update σ.pc t q)
    (hown : σ'.ownSockets = σ.ownSockets)
    (hfail : ∀ s, q.failedWith = some s → s = σ.context)
    (hcloses : ∀ s ∈ σ.closes, s ∈ σ'.closes) (hself : σ.context ∈ σ'.closes) :
    Ledger σ' := by
  have hcontext : σ'.context = σ.context := congrArg OwnSockets.context hown
  have hcreated : σ'.created = σ.created := congrArg OwnSockets.created hown
  refine ⟨?_, ?_, ?_⟩
  · intro s hs
    left
    rw [hcreated] at hs
    rcases h.created s hs with hclosed | ⟨rfl, -⟩
    · exact hcloses s hclosed
    · exact hself
  · intro u _
    rw [hcontext]
    exact hself
  · intro u s hs
    rw [hpc] at hs
    rcases of_update (P := fun p => p.failedWith = some s) hs with ⟨-, hq⟩ | hold
    · exact hfail s hq ▸ hself
    · exact hcloses s (h.failed u s hold)

/-- Before a start call obtains a socket, all earlier ones are closed. -/
theorem Ledger.all_closed (h : Ledger σ) (hmode : σ.currentMode = .unknown)
    (hwork : ∀ u, (σ.pc u).working = false) : ∀ s ∈ σ.created, s ∈ σ.closes := by
  intro s hs
  rcases h.created s hs with hclosed | ⟨-, hne | ⟨u, hu⟩⟩
  · exact hclosed
  · exact absurd hmode hne
  · simp [hwork u] at hu

/-- Nobody is past a `srt_close` of `stop` while another thread is inside
`net_mtx_`. -/
theorem not_pastClose (hl : Locks σ) (hdepth : (σ.pc t).netDepth ≠ 0)
    (hpast : (σ.pc t).pastClose = false) (u : Tid) : (σ.pc u).pastClose = false := by
  by_contra hu
  rw [Bool.not_eq_false] at hu
  obtain rfl := hl.net.unique hdepth (Pc.pastClose_netDepth hu)
  simp [hpast] at hu

theorem Pc.failedWith_of_working {p : Pc} (h : p.working = true) : p.failedWith = none := by
  cases p with
  | start call pc => cases pc <;> simp_all [Pc.working, StartPc.working, Pc.failedWith]
  | _ => rfl

/-- The socket is assigned: created, or the failure value. -/
theorem Ledger.assign (h : Ledger σ) (hl : Locks σ) (hlife : Lifecycle σ)
    {call : StartCall} {q : Pc} (hp : σ.pc t = .start call .create)
    (hpc : σ'.pc = Function.update σ.pc t q) (hpast : q.pastClose = false)
    (hfail : q.failedWith = none) (hcloses : σ'.closes = σ.closes)
    (hcreated : σ'.created = σ.created ∨
      σ'.created = σ'.context :: σ.created ∧ q.working = true) : Ledger σ' := by
  obtain ⟨hmode, hwork⟩ := no_session_at_create hl hlife hp
  have hall := h.all_closed hmode hwork
  refine ⟨?_, ?_, ?_⟩
  · intro s hs
    rw [hcloses]
    rcases hcreated with heq | ⟨heq, hq⟩
    · rw [heq] at hs
      exact .inl (hall s hs)
    · rw [heq] at hs
      rcases List.mem_cons.mp hs with rfl | hold
      · exact .inr ⟨rfl, .inr ⟨t, by rw [hpc, Function.update_self]; exact hq⟩⟩
      · exact .inl (hall s hold)
  · intro u hu
    rw [hpc] at hu
    rcases of_update (P := fun p => p.pastClose = true) hu with ⟨-, hq⟩ | hold
    · simp [hpast] at hq
    · have := not_pastClose hl (t := t) (by rw [hp]; simp [Pc.netDepth]) (by rw [hp]; rfl) u
      simp [this] at hold
  · intro u s hs
    rw [hpc] at hs
    rw [hcloses]
    rcases of_update (P := fun p => p.failedWith = some s) hs with ⟨-, hq⟩ | hold
    · simp [hfail] at hq
    · exact h.failed u s hold

/-- A session thread is created: the socket is the socket of a session. -/
theorem Ledger.spawn (h : Ledger σ) (hm : Move cb σ t i σ') {w : Tid} {p q : Pc}
    (hclose : (σ.pc t).atClose = false)
    (hpc : σ'.pc = Function.update (Function.update σ.pc w p) t q)
    (hfail : p.failedWith = none ∧ q.failedWith = none)
    (hown : σ'.ownSockets = σ.ownSockets) (hmode : σ'.currentMode ≠ .unknown)
    (hcloses : σ'.closes = σ.closes) : Ledger σ' := by
  have hcontext : σ'.context = σ.context := congrArg OwnSockets.context hown
  have hcreated : σ'.created = σ.created := congrArg OwnSockets.created hown
  refine ⟨?_, ?_, ?_⟩
  · intro s hs
    rw [hcreated] at hs
    rw [hcloses, hcontext]
    exact (h.created s hs).imp_right fun hs => ⟨hs.1, .inl hmode⟩
  · intro u hu
    rw [hcloses, hcontext]
    rcases hm.pastClose hu with hpast | ⟨hat, -⟩
    · exact h.stopped u hpast
    · simp [hclose] at hat
  · intro u s hs
    rw [hpc] at hs
    rw [hcloses]
    rcases of_update (P := fun p => p.failedWith = some s) hs with ⟨-, hq⟩ | hs
    · simp [hfail.2] at hq
    · rcases of_update (P := fun p => p.failedWith = some s) hs with ⟨-, hq⟩ | hold
      · simp [hfail.1] at hq
      · exact h.failed u s hold

theorem afterClose_failedWith (dtor : Bool) (result : Option Int) (mode : Mode) :
    (afterClose dtor result mode).failedWith = none := by
  cases mode <;> rfl

theorem Ledger.move (h : Ledger σ) (hl : Locks σ) (hlife : Lifecycle σ) (hsock : Sockets σ)
    (hok : NoLeak σ (t, i)) (hm : Move cb σ t i σ') : Ledger σ' := by
  have hm' := hm
  cases hm with
  | silent hp hs =>
      refine h.quiet hm' rfl rfl rfl (by rw [hp, hs.working_eq]) ?_
        (by rw [hp]; cases hs <;> rfl) (fun _ hs => hs)
      cases hs with
      | startWork call hw hw' => exact Pc.failedWith_of_working hw'
      | _ => rfl
  | enter c hp =>
      exact h.quiet hm' rfl rfl rfl (by rw [hp]; cases c <;> rfl) (by cases c <;> rfl)
        (by rw [hp]; rfl) (fun _ hs => hs)
  | takeNet hp hs hfree =>
      exact h.quiet hm' rfl rfl rfl (by rw [hp]; cases hs <;> rfl) (by cases hs <;> rfl)
        (by rw [hp]; cases hs <;> rfl) (fun _ hs => hs)
  | dropNet hp hs =>
      exact h.quiet hm' rfl rfl rfl (by rw [hp]; cases hs <;> rfl) (by cases hs <;> rfl)
        (by rw [hp]; cases hs <;> rfl) (fun _ hs => hs)
  | startRefuse hp hexit =>
      exact h.quiet hm' rfl rfl rfl (by rw [hp]; rfl) (by simp [Pc.failedWith])
        (by rw [hp]; rfl) (fun _ hs => hs)
  | createFail hp => exact h.assign hl hlife hp rfl rfl rfl rfl (.inl rfl)
  | create hp hpc hs =>
      exact h.assign hl hlife hp rfl rfl (Pc.failedWith_of_working hpc) rfl (.inr ⟨rfl, hpc⟩)
  | startLeak hp hpc hleak hexit =>
      unfold NoLeak at hok
      simp [hp, Pc.leaks, hleak] at hok
  | startClose r hp =>
      rename_i exit
      refine h.closed rfl rfl ?_ (fun _ hs => List.mem_cons_of_mem _ hs) List.mem_cons_self
      intro s hs
      simp only [Pc.failedWith] at hs
      split at hs
      · cases hs
      · exact (Option.some.inj hs).symm
  | publishServer hp hfree =>
      exact h.spawn hm' (by rw [hp]; rfl) rfl ⟨rfl, rfl⟩ rfl (by simp) rfl
  | publishClient hp hfree =>
      exact h.spawn hm' (by rw [hp]; rfl) rfl ⟨rfl, rfl⟩ rfl (by simp) rfl
  | publishFault server client mode hp hjoinable =>
      exact absurd (hlife.at_publish hl hp).2 hjoinable
  | stopCloseFail hp hi =>
      exact h.closed rfl rfl (by simp [Pc.failedWith])
        (fun _ hs => List.mem_cons_of_mem _ hs) List.mem_cons_self
  | stopClose hp hr =>
      exact h.closed rfl rfl (by simp [afterClose_failedWith])
        (fun _ hs => List.mem_cons_of_mem _ hs) List.mem_cons_self
  | stopSkipClose hp hcontext =>
      exact absurd hcontext (hsock.context_ne_zero (hlife.at_close hl hp).ne_unknown)
  | joinWorkerServer hp hjoin =>
      exact h.closed rfl rfl (by simp [Pc.failedWith]) (fun _ hs => hs)
        (h.stopped t (by rw [hp]; rfl))
  | joinWorkerClient hp hmode hjoin =>
      exact h.closed rfl rfl (by simp [Pc.failedWith]) (fun _ hs => hs)
        (h.stopped t (by rw [hp]; rfl))
  | joinEvent hp hjoin =>
      exact h.closed rfl rfl (by simp [Pc.failedWith]) (fun _ hs => hs)
        (h.stopped t (by rw [hp]; rfl))
  | sweepReport r hp hcb =>
      exact h.quiet hm' rfl rfl rfl (by rw [hp]; rfl) rfl (by rw [hp]; rfl)
        (fun _ hs => List.mem_cons_of_mem _ hs)
  | sweepQuiet r hp hcb =>
      exact h.quiet hm' rfl rfl rfl (by rw [hp]; rfl) rfl (by rw [hp]; rfl)
        (fun _ hs => List.mem_cons_of_mem _ hs)
  | sweepClear hp =>
      rename_i caller
      exact h.quiet hm' rfl rfl rfl (by rw [hp]; cases caller <;> rfl)
        (by cases caller <;> rfl) (by rw [hp]; rfl) (fun _ hs => hs)
  | spawnEvent ready hp hfree =>
      have hmode := hlife.accept_mode _ (by rw [hp]; rfl)
      exact h.spawn hm' (by rw [hp]; rfl) rfl ⟨rfl, rfl⟩ rfl (by simp [hmode]) rfl
  | spawnFault => exact ⟨h.created, h.stopped, h.failed⟩
  | readEnd => exact ⟨h.created, h.stopped, h.failed⟩
  | evict r hp hfree hfind hcb =>
      exact h.quiet hm' rfl rfl rfl (by rw [hp]; rfl) rfl (by rw [hp]; rfl)
        (fun _ hs => List.mem_cons_of_mem _ hs)
  | evictQuiet r hp hfree hfind hcb =>
      exact h.quiet hm' rfl rfl rfl (by rw [hp]; rfl) rfl (by rw [hp]; rfl)
        (fun _ hs => List.mem_cons_of_mem _ hs)
  | _ =>
      exact h.quiet hm' rfl rfl rfl (by simp only [*]; rfl) rfl (by simp only [*]; rfl)
        (fun _ hs => hs)

theorem ledger_reachable (h : (system cb).ReachableUnder NoLeak σ) : Ledger σ := by
  refine invariant_of_moves (P := Ledger) ?_ ?_ h
  · exact ⟨by simp [State.created, State.init], by simp [State.init, Pc.pastClose],
      by simp [State.init, Pc.failedWith]⟩
  · intro σ t i σ' hreach hs hok _ hm
    exact hs.move (locks_reachable hreach) (lifecycle_reachable hreach)
      (sockets_reachable hreach) hok hm

/-- **No socket is forgotten.**  In a run without failing `srt_setsockflag` and
`getaddrinfo` calls, a start call that returns `false` has closed the socket
it obtained, and no created socket is open while an object without a mode has
`net_mtx_` free. -/
theorem start_closes_socket (h : (system cb).ReachableUnder NoLeak σ) :
    (∀ t call exit s, σ.pc t = .start call (.ret exit (some s)) → exit.value = false →
      ∃ r, .srtClose s r ∈ σ.trace) ∧
    (σ.netMtx = none → σ.currentMode = .unknown →
      ∀ s, .srtCreateSocket s ∈ σ.trace → ∃ r, .srtClose s r ∈ σ.trace) := by
  have hledger := ledger_reachable h
  constructor
  · intro t call exit s hp hexit
    rw [← State.mem_closes]
    exact hledger.failed t s (by simp [hp, Pc.failedWith, hexit])
  · intro hfree hmode s hs
    rw [← State.mem_closes]
    refine hledger.all_closed hmode ?_ s (State.mem_created.mpr hs)
    intro u
    by_contra hu
    rw [Bool.not_eq_false] at hu
    have howner := (locks_reachable h).net.eq_some (Pc.working_netDepth hu)
    simp [hfree] at howner

end

/-- A server start that fails in `srt_bind`, after which the object is idle
again. -/
theorem start_closes_socket_bind :
    ∃ σ, (system allCallbacks).ReachableUnder NoLeak σ ∧ σ.netMtx = none ∧
      σ.currentMode = .unknown ∧ .srtCreateSocket 5 ∈ σ.trace ∧
      ∃ r, .srtClose 5 r ∈ σ.trace := by
  refine ⟨_, StepSystem.reachableUnder_get NoLeak (schedule (.app 0)
    ([.call (.startServer (testServer 1)), .resolved 1 0, .tau, .tau, .answer 5, .answer 1] ++
      (testServer 1).options.map (fun _ => .answer 0) ++
      [.tau, .answer SRT_ERROR, .answer 0, .tau])) rfl, rfl, rfl, by decide, ?_⟩
  exact (start_closes_socket (StepSystem.reachableUnder_get NoLeak _ rfl)).2 rfl rfl 5 (by decide)

/-- A passphrase that SRT refuses: `startClient` returns `false` and leaves its
socket open. -/
theorem start_forgets_socket :
    ∃ σ, (system allCallbacks).Reachable σ ∧
      (∃ call, σ.pc (.app 0) = .start call
        (.ret (.flagFailed (.str .PASSPHRASE "short")) (some 5))) ∧
      ∀ r, .srtClose 5 r ∉ σ.trace := by
  refine ⟨_, StepSystem.reachable_get (schedule (.app 0)
    [.call (.startClient { testClient 7 with psk := "short" }), .tau, .tau, .answer 5,
      .answer 0, .answer 0, .answer 0, .answer 0, .answer 0, .answer 0,
      .answer SRT_ERROR]) rfl, ⟨_, rfl⟩, ?_⟩
  intro r hr
  exact absurd (State.mem_closes.mpr ⟨r, hr⟩) (by decide)

end SrtNet
