import Xrtc.SrtNetDataPath

/-!
# The history of a client

`Written` lists what one step adds to the history, together with what the
moving thread knows at that point.  From it and the custody balances follows
the order of all calls that concern one accepted socket: they are the calls of
a `Chapter`, whatever the threads do in between.
-/

namespace SrtNet

open Custody

/-! ## What a step writes -/

/-- The call of `clientDisconnected` for a client of the server, if it is set. -/
def reportOf (cb : Callbacks) (a : SRTSOCKET × Context) : List Event :=
  if cb.clientDisconnected then [.clientDisconnected .server (some a.2) a.1] else []

/-- What a step of thread `t` adds to the history (newest call first). -/
inductive Written (cb : Callbacks) (σ : State) (t : Tid) : List Event → Prop
  | nothing : Written cb σ t []
  | session (mode : Mode) (hmode : σ.currentMode = .unknown ∧ mode ≠ .unknown) :
      Written cb σ t [.sessionStart mode]
  | create (s : SRTSOCKET) (hs : σ.fresh s) : Written cb σ t [.srtCreateSocket s]
  /-- The object closes its own socket. -/
  | own (r : Int) (hs : σ.context ∈ σ.created)
      (hp : (σ.pc t).working = true ∨ (σ.pc t).atClose = true) :
      Written cb σ t [.srtClose σ.context r]
  | accept (s : SRTSOCKET) (hs : σ.fresh s) : Written cb σ t [.srtAccept s]
  /-- `clientConnected` returns. -/
  | decide (s : SRTSOCKET) (c : Option Context) (hstage : σ.stage = .connecting s)
      (hmode : σ.currentMode = .server) : Written cb σ t [.clientConnected s c]
  /-- A refused socket goes to POSIX `close`. -/
  | drop (s : SRTSOCKET) (hstage : σ.stage = .refusing s) : Written cb σ t [.close s]
  /-- A client is closed and reported. -/
  | retire (a : SRTSOCKET × Context) (r : Int) (ha : a ∈ σ.live)
      (hmode : σ.currentMode = .server) : Written cb σ t (reportOf cb a ++ [.srtClose a.1 r])
  /-- A message of a client is delivered. -/
  | deliver (a : SRTSOCKET × Context) (ha : a ∈ σ.live) (hmode : σ.currentMode = .server) :
      Written cb σ t [.received .server (some a.2) a.1]
  /-- A message for the client session is delivered. -/
  | clientData (hp : σ.pc t = .clientWorker .recv) (ht : t = .worker σ.session)
      (hmode : σ.currentMode = .client) :
      Written cb σ t [.received .client σ.clientContext σ.context]
  /-- The client session is reported. -/
  | clientReport (hp : σ.pc t = .clientWorker .recv) (ht : t = .worker σ.session)
      (hmode : σ.currentMode = .client) :
      Written cb σ t [.clientDisconnected .client σ.clientContext σ.context]

section

variable {cb : Callbacks} {σ σ' : State} {t : Tid} {i : Input}
  {ok : State → Tid × Input → Prop}

/-- `closeAllClientSockets` runs in a server session. -/
theorem Lifecycle.sweep_mode (h : Lifecycle σ) (hl : Locks σ) (ht : Threads σ)
    {caller : SweepCaller} {pc : SweepPc} (hp : σ.pc t = .closeAllClientSockets caller pc) :
    σ.currentMode = .server := by
  cases caller with
  | stop dtor result =>
      obtain ⟨-, hphase⟩ := h.phase_of_depth hl hp (by simp [Pc.netDepth, SweepCaller.netDepth])
      exact hphase.1.mode_eq
  | waitForSRTClient =>
      obtain ⟨rfl, -⟩ := stage_eq h ht hp rfl
      exact h.accept_mode _ (by rw [hp]; rfl)

/-- `serverEventHandler` runs in a server session. -/
theorem Lifecycle.event_mode (h : Lifecycle σ) {k : Nat} {pc : EventPc}
    (hp : σ.pc (.event k) = .serverEventHandler pc) : σ.currentMode = .server :=
  (h.handle_event _ (h.event_alive k (by rw [hp]; rfl))).2

/-- `clientWorker` runs for the newest session, a client's. -/
theorem Lifecycle.client_worker (h : Lifecycle σ) {k : Nat} {pc : WorkerPc}
    (hp : σ.pc (.worker k) = .clientWorker pc) :
    Tid.worker k = .worker σ.session ∧ σ.currentMode = .client := by
  have hkind : (σ.pc (.worker k)).kind = .client := by
    rw [hp]
    rfl
  exact ⟨congrArg Tid.worker (h.client_session hkind), h.client_mode k hkind⟩

/-- A start call that holds its socket works on an object without a mode. -/
theorem Lifecycle.working_mode (h : Lifecycle σ) (hl : Locks σ)
    (ht : (σ.pc t).working = true) : σ.currentMode = .unknown := by
  obtain ⟨-, hphase⟩ := h.phase_of_depth hl rfl (Pc.working_netDepth ht)
  cases hp : σ.pc t with
  | start call pc =>
      rw [hp] at ht hphase
      exact hphase (.inr ht)
  | _ => simp [hp, Pc.working] at ht

/-- An entry of the list, with nobody closing the entries. -/
theorem mem_live (hfree : σ.clientListMtx = none) {s : SRTSOCKET} {c : Context}
    (hfind : σ.clientList[s]? = some c) : (s, c) ∈ σ.live := by
  rw [live_of_none (sweepRest_of_free hfree)]
  exact Std.TreeMap.mem_toList_iff_getElem?_eq_some.mpr hfind

/-- The next entry of a `closeAllClientSockets` in progress. -/
theorem mem_live_next (hl : Locks σ) {caller : SweepCaller} {a : SRTSOCKET × Context}
    {rest : List (SRTSOCKET × Context)}
    (hp : σ.pc t = .closeAllClientSockets caller (.next (a :: rest))) : a ∈ σ.live := by
  rw [live_of_some (sweepRest_of_depth hl hp (by simp [Pc.listDepth]))]
  exact List.mem_cons_self

/-- The history grows by what a step writes. -/
theorem Move.written (hl : Locks σ) (ht : Threads σ) (hlife : Lifecycle σ)
    (hsock : Sockets σ) (hm : Move cb σ t i σ') :
    ∃ news, σ'.trace = news ++ σ.trace ∧ Written cb σ t news := by
  cases hm with
  | create hp hpc hs => exact ⟨_, rfl, .create _ hs⟩
  | startClose r hp =>
      exact ⟨_, rfl, .own r (hsock.context (.inr ⟨t, by rw [hp]; rfl⟩)) (.inl (by rw [hp]; rfl))⟩
  | publishServer hp hfree =>
      exact ⟨_, rfl, .session .server ⟨(hlife.at_publish hl hp).1, by simp⟩⟩
  | publishClient hp hfree =>
      exact ⟨_, rfl, .session .client ⟨(hlife.at_publish hl hp).1, by simp⟩⟩
  | stopCloseFail hp hi =>
      exact ⟨_, rfl, .own _ (hsock.context (.inl (hlife.at_close hl hp).ne_unknown))
        (.inr (by rw [hp]; rfl))⟩
  | stopClose hp hr =>
      exact ⟨_, rfl, .own _ (hsock.context (.inl (hlife.at_close hl hp).ne_unknown))
        (.inr (by rw [hp]; rfl))⟩
  | sweepReport r hp hcb =>
      refine ⟨_, ?_, .retire _ r (mem_live_next hl hp) (hlife.sweep_mode hl ht hp)⟩
      simp [reportOf, hcb]
  | sweepQuiet r hp hcb =>
      refine ⟨_, ?_, .retire _ r (mem_live_next hl hp) (hlife.sweep_mode hl ht hp)⟩
      simp [reportOf, hcb]
  | accept hp hs => exact ⟨_, rfl, .accept _ hs⟩
  | connect hp =>
      obtain ⟨rfl, hstage⟩ := stage_eq hlife ht hp rfl
      exact ⟨_, rfl, .decide _ _ hstage (hlife.accept_mode _ (by rw [hp]; rfl))⟩
  | reject hp =>
      obtain ⟨rfl, hstage⟩ := stage_eq hlife ht hp rfl
      exact ⟨_, rfl, .decide _ _ hstage (hlife.accept_mode _ (by rw [hp]; rfl))⟩
  | refuse hp => exact ⟨_, rfl, .drop _ (stage_eq hlife ht hp rfl).2⟩
  | evict r hp hfree hfind hcb =>
      refine ⟨_, ?_, .retire _ r (mem_live hfree hfind) (hlife.event_mode hp)⟩
      simp [reportOf, hcb]
  | evictQuiet r hp hfree hfind hcb =>
      refine ⟨_, ?_, .retire _ r (mem_live hfree hfind) (hlife.event_mode hp)⟩
      simp [reportOf, hcb]
  | deliver hp hfree hfind =>
      exact ⟨_, rfl, .deliver _ (mem_live hfree hfind) (hlife.event_mode hp)⟩
  | clientData hp =>
      obtain ⟨hself, hmode⟩ := hlife.client_worker hp
      exact ⟨_, rfl, .clientData hp hself hmode⟩
  | clientReport hp hcb =>
      obtain ⟨hself, hmode⟩ := hlife.client_worker hp
      exact ⟨_, rfl, .clientReport hp hself hmode⟩
  | _ => exact ⟨[], rfl, .nothing⟩

/-- What a reachable step writes. -/
theorem written_of_move (h : (system cb).ReachableUnder ok σ) (hm : Move cb σ t i σ') :
    ∃ news, σ'.trace = news ++ σ.trace ∧ Written cb σ t news :=
  hm.written (locks_reachable h) (threads_reachable h) (lifecycle_reachable h)
    (sockets_reachable h)

end

/-! ## The calls about one socket -/

/-- The socket a call is about. -/
def Event.socket : Event → Option SRTSOCKET
  | .sessionStart _ => none
  | .srtCreateSocket s | .srtAccept s | .srtClose s _ | .close s => some s
  | .clientConnected s _ | .received _ _ s | .clientDisconnected _ _ s => some s

/-- The calls about a socket, newest first. -/
def State.calls (σ : State) (s : SRTSOCKET) : List Event :=
  σ.trace.filter (fun e => e.socket = some s)

/-- How far the server has got with a socket: `n` messages were delivered, and
`r` was the answer of `srt_close`. -/
inductive Chapter
  | unknown
  | connecting
  | refusing
  | dropped
  | serving (c : Context) (n : ℕ)
  | gone (c : Context) (n : ℕ) (r : Int)

namespace Chapter

/-- The messages of a client, behind its admission. -/
def served (s : SRTSOCKET) (c : Context) (n : ℕ) : List Event :=
  List.replicate n (.received .server (some c) s) ++
    [.clientConnected s (some c), .srtAccept s]

/-- The calls about `s` up to here, newest first. -/
def calls (cb : Callbacks) (s : SRTSOCKET) : Chapter → List Event
  | .unknown => []
  | .connecting => [.srtAccept s]
  | .refusing => [.clientConnected s none, .srtAccept s]
  | .dropped => [.close s, .clientConnected s none, .srtAccept s]
  | .serving c n => served s c n
  | .gone c n r => reportOf cb (s, c) ++ .srtClose s r :: served s c n

variable {cb : Callbacks} {s : SRTSOCKET} {chapter : Chapter}

theorem mem_accepted : .srtAccept s ∈ chapter.calls cb s ↔ chapter ≠ .unknown := by
  cases chapter <;> simp [calls, served]

theorem mem_decided {c : Option Context} (h : .clientConnected s c ∈ chapter.calls cb s) :
    c = none ∧ (chapter = .refusing ∨ chapter = .dropped) ∨
      ∃ x n, c = some x ∧ (chapter = .serving x n ∨ ∃ r, chapter = .gone x n r) := by
  cases chapter <;> simp_all [calls, served, reportOf]

theorem eq_connecting (h : chapter ≠ .unknown)
    (hnot : ∀ c, .clientConnected s c ∉ chapter.calls cb s) : chapter = .connecting := by
  cases chapter with
  | unknown => exact absurd rfl h
  | connecting => rfl
  | refusing => exact absurd (by simp [calls]) (hnot none)
  | dropped => exact absurd (by simp [calls]) (hnot none)
  | serving c n => exact absurd (by simp [calls, served]) (hnot (some c))
  | gone c n r => exact absurd (by simp [calls, served]) (hnot (some c))

end Chapter

section

variable {cb : Callbacks} {σ σ' : State} {t : Tid} {i : Input} {s : SRTSOCKET}
  {ok : State → Tid × Input → Prop}

theorem State.mem_calls {e : Event} : e ∈ σ.calls s ↔ e ∈ σ.trace ∧ e.socket = some s := by
  simp [State.calls]

theorem State.calls_of_trace {news : List Event} (h : σ'.trace = news ++ σ.trace) :
    σ'.calls s = news.filter (fun e => e.socket = some s) ++ σ.calls s := by
  unfold State.calls
  rw [h, List.filter_append]

/-! ## Where an admitted client is -/

/-- An admitted client waits to be inserted, is in the list, or has been closed. -/
def Served (σ : State) : Prop :=
  ∀ a ∈ σ.books.admitted, a ∈ σ.stage.pending ∨ a ∈ σ.live ∨ a.1 ∈ σ.books.closes

/-- The admissions, the list and the hands stay, and at most sockets are closed. -/
theorem Served.kept (h : Served σ) (hk : Kept σ σ') (hstage : σ'.stage.pending = σ.stage.pending)
    (hadmitted : σ'.books.admitted = σ.books.admitted)
    (hcloses : ∀ s ∈ σ.books.closes, s ∈ σ'.books.closes) : Served σ' := by
  intro a ha
  rw [hadmitted] at ha
  rw [hstage, hk.live]
  exact (h a ha).imp_right (Or.imp_right (hcloses a.1))

theorem Served.effect (h : Served σ) (hclients : Clients cb σ) (hsock : Sockets σ)
    (he : Effect cb σ σ') : Served σ' := by
  cases he with
  | quiet hk hstage hbooks =>
      exact h.kept hk (by rw [hstage]) (by rw [hbooks]) (by rw [hbooks]; exact fun _ hs => hs)
  | foreign hk hstage s hs hbooks =>
      refine h.kept hk (by rw [hstage]) (by rw [hbooks]) ?_
      rw [hbooks]
      exact fun _ hs => List.mem_cons_of_mem _ hs
  | accept hk s hstage hbooks =>
      exact h.kept hk (by rw [hstage.1, hstage.2]; rfl) (by rw [hbooks])
        (by rw [hbooks]; exact fun _ hs => hs)
  | connect hk s c hstage hbooks =>
      intro a ha
      rw [hbooks] at ha ⊢
      rw [hstage.2, hk.live]
      rcases List.mem_cons.mp ha with rfl | hold
      · exact .inl (List.mem_singleton_self _)
      · have hplace := h a hold
        rw [hstage.1] at hplace
        exact .inr (hplace.resolve_left List.not_mem_nil)
  | reject hk s hstage hbooks =>
      exact h.kept hk (by rw [hstage.1, hstage.2]; rfl) (by rw [hbooks])
        (by rw [hbooks]; exact fun _ hs => hs)
  | refuse hk s hstage hbooks =>
      exact h.kept hk (by rw [hstage.1, hstage.2]; rfl) (by rw [hbooks])
        (by rw [hbooks]; exact fun _ hs => hs)
  | insert s c hstage hsweep hlist hsubs hcreated hbooks =>
      intro a ha
      rw [hbooks] at ha ⊢
      have hnot : s ∉ σ.clientList := hclients.not_mem_of_inHand hsock hsweep.1
        (by rw [hstage.1]; exact List.mem_singleton_self s)
      have hplace := h a ha
      rw [hstage.1, live_of_none hsweep.1] at hplace
      rw [live_of_none hsweep.2, hlist, (toList_insert_perm hnot).mem_iff, List.mem_cons]
      rcases hplace with hpending | hlive | hclosed
      · exact .inr (.inl (.inl (List.mem_singleton.mp hpending)))
      · exact .inr (.inl (.inr hlive))
      · exact .inr (.inr hclosed)
  | sweepLock hstage hsweep hlist hsubs hcreated hbooks =>
      intro a ha
      rw [hbooks] at ha ⊢
      have hplace := h a ha
      rw [live_of_none hsweep.1] at hplace
      rw [hstage, live_of_some hsweep.2]
      exact hplace
  | visit a rest hstage hsweep hlist hsubs hcreated hbooks =>
      intro b hb
      rw [hbooks] at hb ⊢
      rw [hstage, live_of_some hsweep.2]
      have hplace := h b hb
      rw [live_of_some hsweep.1, List.mem_cons] at hplace
      rcases hplace with hpending | (rfl | hrest) | hclosed
      · exact .inl hpending
      · exact .inr (.inr List.mem_cons_self)
      · exact .inr (.inl hrest)
      · exact .inr (.inr (List.mem_cons_of_mem _ hclosed))
  | sweepClear hstage hsweep hlist hsubs hcreated hbooks =>
      intro a ha
      rw [hbooks] at ha ⊢
      have hplace := h a ha
      rw [live_of_some hsweep.1] at hplace
      rw [hstage]
      exact hplace.imp_right fun hrest => .inr (hrest.resolve_left List.not_mem_nil)
  | evict s c hstage hsweep hfind hlist hsubs hcreated hbooks =>
      intro a ha
      rw [hbooks] at ha ⊢
      rw [hstage, live_of_none hsweep.2, hlist]
      have hplace := h a ha
      rw [live_of_none hsweep.1] at hplace
      rcases hplace with hpending | hlive | hclosed
      · exact .inl hpending
      · by_cases heq : a.1 = s
        · exact .inr (.inr (by rw [heq]; exact List.mem_cons_self))
        · refine .inr (.inl ?_)
          rw [Std.TreeMap.mem_toList_iff_getElem?_eq_some] at hlive ⊢
          rw [Std.TreeMap.getElem?_erase, if_neg (by simpa using Ne.symm heq)]
          exact hlive
      · exact .inr (.inr (List.mem_cons_of_mem _ hclosed))

theorem served_reachable (h : (system cb).ReachableUnder ok σ) : Served σ := by
  refine invariant_of_moves (P := Served) (fun _ ha => (nomatch ha)) ?_ h
  intro σ t i σ' hreach hs _ _ hm
  exact hs.effect (clients_reachable hreach) (sockets_reachable hreach)
    (effect_of_move hreach hm)

/-! ## The history of an accepted socket -/

/-- The calls about every socket that the object did not create form a chapter. -/
def Told (cb : Callbacks) (σ : State) : Prop :=
  ∀ s, s ∉ σ.created → ∃ chapter : Chapter, σ.calls s = chapter.calls cb s

/-- A socket's chapter has begun when the socket has been accepted. -/
theorem Told.accepted {chapter : Chapter} (h : σ.calls s = chapter.calls cb s) :
    chapter ≠ .unknown ↔ .srtAccept s ∈ σ.trace := by
  have hmem : .srtAccept s ∈ chapter.calls cb s ↔ chapter ≠ .unknown := Chapter.mem_accepted
  rw [← hmem, ← h, State.mem_calls]
  exact and_iff_left rfl

/-- Nothing was called about a socket that SRT has not handed out. -/
theorem Told.unknown {chapter : Chapter} (h : σ.calls s = chapter.calls cb s)
    (hs : s ∉ σ.sockets) : chapter = .unknown := by
  by_contra hne
  exact hs (State.mem_sockets.mpr (.inr (State.mem_accepted.mpr ((Told.accepted h).mp hne))))

/-- What is still in the accept loop's hands or in the list has not been closed. -/
theorem Clients.not_closed (hclients : Clients cb σ) (hsock : Sockets σ)
    (hs : s ∈ σ.stage.inHand ++ σ.live.map Prod.fst) (hacc : s ∈ σ.accepted) :
    s ∉ σ.closes ∧ (σ.stage.inHand ++ σ.live.map Prod.fst ++ σ.dropped).count s = 1 := by
  have hheld : s ∈ σ.stage.inHand ++ σ.live.map Prod.fst ++ σ.books.dropped :=
    List.mem_append_left _ hs
  rcases hclients.sockets.one_place (hsock.not_created hacc) hsock.nodup_accepted hacc with
    hplace | hplace
  · exact ⟨hplace.2, hplace.1⟩
  · exact absurd hheld hplace.1

/-- `clientConnected` is deciding about the socket. -/
theorem Told.connecting {chapter : Chapter} (h : σ.calls s = chapter.calls cb s)
    (hclients : Clients cb σ) (hsock : Sockets σ) (hstage : σ.stage = .connecting s) :
    chapter = .connecting := by
  have hacc : s ∈ σ.accepted :=
    hclients.known s (by rw [hstage]; exact List.mem_singleton_self s)
  have hundecided : ∀ c, .clientConnected s c ∉ chapter.calls cb s := by
    intro c hc
    rw [← h, State.mem_calls] at hc
    have hdecided : s ∈ σ.books.decided := List.mem_filterMap.mpr ⟨_, hc.1, rfl⟩
    have hbalance := hclients.decisions
    rw [hstage] at hbalance
    rcases hbalance.one_place trivial hsock.nodup_accepted hacc with hplace | hplace
    · exact hplace.2 hdecided
    · exact hplace.1 (List.mem_singleton_self s)
  exact Chapter.eq_connecting ((Told.accepted h).mpr (State.mem_accepted.mp hacc)) hundecided

/-- `clientConnected` has refused the socket. -/
theorem Told.refusing {chapter : Chapter} (h : σ.calls s = chapter.calls cb s)
    (hclients : Clients cb σ) (hsock : Sockets σ) (hserved : Served σ)
    (hstage : σ.stage = .refusing s) : chapter = .refusing := by
  have hhand : s ∈ σ.stage.inHand := by
    rw [hstage]
    exact List.mem_singleton_self s
  have hacc : s ∈ σ.accepted := hclients.known s hhand
  obtain ⟨hopen, hone⟩ := hclients.not_closed hsock (List.mem_append_left _ hhand) hacc
  rw [hstage, List.count_append, List.count_append] at hone
  have hself : (Stage.refusing s).inHand.count s = 1 := List.count_singleton_self
  have hlive : s ∉ σ.live.map Prod.fst := List.count_eq_zero.mp (by omega)
  have hdropped : s ∉ σ.dropped := List.count_eq_zero.mp (by omega)
  -- it has been decided about
  have hdecisions := hclients.decisions s trivial
  have hcount : σ.books.accepted.count s = 1 :=
    List.count_eq_one_of_mem hsock.nodup_accepted hacc
  rw [hstage, hcount] at hdecisions
  have hnil : (Stage.refusing s).undecided.count s = 0 := rfl
  have hdecided : s ∈ σ.decided := List.count_pos_iff.mp (by
    show 0 < σ.books.decided.count s
    omega)
  obtain ⟨e, he, hs⟩ := List.mem_filterMap.mp hdecided
  obtain ⟨c, rfl⟩ : ∃ c, e = .clientConnected s c := by
    cases e <;> simp_all [Event.decided]
  have hmem : .clientConnected s c ∈ chapter.calls cb s := by
    rw [← h, State.mem_calls]
    exact ⟨he, rfl⟩
  rcases Chapter.mem_decided hmem with ⟨-, hrefused | hdrop⟩ | ⟨x, n, rfl, -⟩
  · exact hrefused
  · have hclose : .close s ∈ σ.calls s := by
      rw [h, hdrop]
      exact List.mem_cons_self
    have hmem : s ∈ σ.dropped :=
      List.mem_filterMap.mpr ⟨_, (State.mem_calls.mp hclose).1, rfl⟩
    exact absurd hmem hdropped
  · rcases hserved (s, x) (State.mem_admitted.mpr he) with hpending | hlisted | hclosed
    · rw [hstage] at hpending
      exact nomatch hpending
    · exact absurd (List.mem_map_of_mem hlisted) hlive
    · exact absurd hclosed hopen

/-- A client in the list was admitted, and its socket was accepted. -/
theorem accepted_of_live (hclients : Clients cb σ) (hregistry : Registry σ)
    {a : SRTSOCKET × Context} (ha : a ∈ σ.live) :
    .clientConnected a.1 (some a.2) ∈ σ.trace ∧ a.1 ∈ σ.accepted := by
  have hadmitted : .clientConnected a.1 (some a.2) ∈ σ.trace :=
    State.mem_admitted.mp (hregistry.listed a (hclients.live_subset a ha))
  have hdecided : a.1 ∈ σ.books.decided := List.mem_filterMap.mpr ⟨_, hadmitted, rfl⟩
  exact ⟨hadmitted, hclients.decisions.mem_of_released trivial hdecided⟩

/-- The client is in the list. -/
theorem Told.serving {chapter : Chapter} {a : SRTSOCKET × Context}
    (h : σ.calls a.1 = chapter.calls cb a.1) (hclients : Clients cb σ) (hsock : Sockets σ)
    (hregistry : Registry σ) (ha : a ∈ σ.live) : ∃ n, chapter = .serving a.2 n := by
  obtain ⟨hadmitted, hacc⟩ := accepted_of_live hclients hregistry ha
  have hopen := (hclients.not_closed hsock
    (List.mem_append_right _ (List.mem_map_of_mem ha)) hacc).1
  have hmem : .clientConnected a.1 (some a.2) ∈ chapter.calls cb a.1 := by
    rw [← h, State.mem_calls]
    exact ⟨hadmitted, rfl⟩
  rcases Chapter.mem_decided hmem with ⟨hnone, -⟩ | ⟨x, n, hx, hserving | ⟨r, hgone⟩⟩
  · cases hnone
  · cases hx
    exact ⟨n, hserving⟩
  · have hclose : .srtClose a.1 r ∈ σ.calls a.1 := by
      rw [h, hgone]
      exact List.mem_append_right _ List.mem_cons_self
    exact absurd (State.mem_closes.mpr ⟨r, (State.mem_calls.mp hclose).1⟩) hopen

theorem filter_reportOf (a : SRTSOCKET × Context) :
    (reportOf cb a).filter (fun e => e.socket = some s) =
      if a.1 = s then reportOf cb a else [] := by
  unfold reportOf
  split <;> simp [Event.socket, List.filter_cons]

/-- The calls that a step writes continue the chapter. -/
theorem Told.written (h : Told cb σ) (hclients : Clients cb σ) (hsock : Sockets σ)
    (hregistry : Registry σ) (hserved : Served σ) {news : List Event}
    (htrace : σ'.trace = news ++ σ.trace) (hw : Written cb σ t news) : Told cb σ' := by
  intro s hs
  have hcreated : s ∉ σ.created := by
    intro hold
    refine hs (State.mem_created.mpr ?_)
    rw [htrace]
    exact List.mem_append_right _ (State.mem_created.mp hold)
  obtain ⟨chapter, hchapter⟩ := h s hcreated
  have hcontext : s ≠ σ.context ∨ σ.context ∉ σ.created := by
    by_contra hboth
    rw [not_or, not_not, not_not] at hboth
    exact hcreated (hboth.1 ▸ hboth.2)
  rw [State.calls_of_trace htrace]
  cases hw with
  | nothing => exact ⟨chapter, hchapter⟩
  | session mode hmode => exact ⟨chapter, hchapter⟩
  | create s' hs' =>
      have hne : s' ≠ s := by
        rintro rfl
        exact hs (State.mem_created.mpr (by rw [htrace]; exact List.mem_cons_self))
      exact ⟨chapter, by simpa [Event.socket, hne] using hchapter⟩
  | own r hmem hp =>
      have hne : σ.context ≠ s := (hcontext.resolve_right (not_not.mpr hmem)).symm
      exact ⟨chapter, by simpa [Event.socket, hne] using hchapter⟩
  | accept s' hs' =>
      by_cases heq : s' = s
      · subst heq
        rw [Told.unknown hchapter hs'.2] at hchapter
        exact ⟨.connecting, by simp [Event.socket, hchapter, Chapter.calls]⟩
      · exact ⟨chapter, by simpa [Event.socket, heq] using hchapter⟩
  | decide s' c hstage hmode =>
      by_cases heq : s' = s
      · subst heq
        rw [Told.connecting hchapter hclients hsock hstage] at hchapter
        cases c with
        | none => exact ⟨.refusing, by simp [Event.socket, hchapter, Chapter.calls]⟩
        | some c =>
            exact ⟨.serving c 0, by simp [Event.socket, hchapter, Chapter.calls, Chapter.served]⟩
      · exact ⟨chapter, by simpa [Event.socket, heq] using hchapter⟩
  | drop s' hstage =>
      by_cases heq : s' = s
      · subst heq
        rw [Told.refusing hchapter hclients hsock hserved hstage] at hchapter
        exact ⟨.dropped, by simp [Event.socket, hchapter, Chapter.calls]⟩
      · exact ⟨chapter, by simpa [Event.socket, heq] using hchapter⟩
  | retire a r ha hmode =>
      by_cases heq : a.1 = s
      · subst heq
        obtain ⟨n, rfl⟩ := Told.serving hchapter hclients hsock hregistry ha
        refine ⟨.gone a.2 n r, ?_⟩
        rw [hchapter, List.filter_append, filter_reportOf, if_pos rfl]
        simp [Event.socket, Chapter.calls]
      · refine ⟨chapter, ?_⟩
        rw [List.filter_append, filter_reportOf, if_neg heq]
        simpa [Event.socket, heq] using hchapter
  | deliver a ha hmode =>
      by_cases heq : a.1 = s
      · subst heq
        obtain ⟨n, rfl⟩ := Told.serving hchapter hclients hsock hregistry ha
        refine ⟨.serving a.2 (n + 1), ?_⟩
        rw [hchapter]
        simp [Event.socket, Chapter.calls, Chapter.served, List.replicate_succ]
      · exact ⟨chapter, by simpa [Event.socket, heq] using hchapter⟩
  | clientData hp ht hmode =>
      have hmem := hsock.context (.inl (by rw [hmode]; simp))
      have hne : σ.context ≠ s := (hcontext.resolve_right (not_not.mpr hmem)).symm
      exact ⟨chapter, by simpa [Event.socket, hne] using hchapter⟩
  | clientReport hp ht hmode =>
      have hmem := hsock.context (.inl (by rw [hmode]; simp))
      have hne : σ.context ≠ s := (hcontext.resolve_right (not_not.mpr hmem)).symm
      exact ⟨chapter, by simpa [Event.socket, hne] using hchapter⟩

theorem told_reachable (h : (system cb).ReachableUnder ok σ) : Told cb σ := by
  refine invariant_of_moves (P := Told cb) (fun s _ => ⟨.unknown, rfl⟩) ?_ h
  intro σ t i σ' hreach hs _ _ hm
  obtain ⟨news, htrace, hw⟩ := written_of_move hreach hm
  exact hs.written (clients_reachable hreach) (sockets_reachable hreach)
    (registry_reachable hreach) (served_reachable hreach) htrace hw

/-- **The history of a client.**  All that ever happens to an accepted socket is
that `clientConnected` is asked about it; that it is refused and given to POSIX
`close`, or that messages are delivered with the context it was admitted under,
until it is closed once and reported right then with that context.  Nothing
follows. -/
theorem client_history (h : (system cb).Reachable σ) (hacc : .srtAccept s ∈ σ.trace) :
    ∃ chapter : Chapter, chapter ≠ .unknown ∧ σ.calls s = chapter.calls cb s := by
  have hnot := (sockets_reachable h).not_created (State.mem_accepted.mpr hacc)
  obtain ⟨chapter, hchapter⟩ := told_reachable h s hnot
  exact ⟨chapter, (Told.accepted hchapter).mpr hacc, hchapter⟩

end

/-- A client that sends two messages before its connection breaks. -/
theorem client_history_two_messages :
    ∃ σ, (system allCallbacks).Reachable σ ∧ .srtAccept 9 ∈ σ.trace ∧
      σ.calls 9 = (Chapter.gone 3 2 0).calls allCallbacks 9 ∧
      ∃ chapter : Chapter, chapter ≠ .unknown ∧ σ.calls 9 = chapter.calls allCallbacks 9 := by
  have hreach := StepSystem.reachable_get (M := system allCallbacks)
    (startServerRun (.app 0) (testServer 1) 5 ++ serverUpRun 1 3 ++
      schedule (.worker 1) [.tau, .answer 9, .candidate (some 3), .answer 0] ++
      schedule (.event 1) [.tau, .ready (some [9]), .answer 100, .answer 0, .done,
        .tau, .ready (some [9]), .answer 100, .answer 0, .done,
        .tau, .ready (some [9]), .answer SRT_ERROR, .answer 0, .done]) rfl
  exact ⟨_, hreach, by decide, by decide, client_history hreach (by decide)⟩

end SrtNet
