import Xrtc.SrtNetHistory
import Xrtc.SrtNetWindUp

/-!
# Handles are closed once

`srt_close` is called with sockets that SRT has handed out, and never again
with one that is closed.  Sockets of clients are passed to it once at most,
whatever it answers; the object's own socket is tried again only after
`SRT_ERROR`.  The epoll of a server session is released by the session's event
thread, so that an object that is no server has none.
-/

namespace SrtNet

/-- SRT has handed the socket out. -/
def Handed (trace : List Event) (s : SRTSOCKET) : Prop :=
  .srtCreateSocket s ∈ trace ∨ .srtAccept s ∈ trace

/-- The socket must not be passed to `srt_close` any more. -/
def Spent (trace : List Event) (s : SRTSOCKET) : Prop :=
  ∃ r, .srtClose s r ∈ trace ∧ (r ≠ SRT_ERROR ∨ .srtAccept s ∈ trace)

/-- Every `srt_close` was called with a socket handed out and not spent. -/
def ClosedOnce : List Event → Prop
  | [] => True
  | e :: rest =>
      (∀ s r, e = .srtClose s r → Handed rest s ∧ ¬ Spent rest s) ∧ ClosedOnce rest

/-- The object's own socket is in use. -/
def State.inUse (σ : State) : Prop :=
  (σ.currentMode ≠ .unknown ∧ ∀ u, (σ.pc u).pastClose = false) ∨
    ∃ u, (σ.pc u).working = true

/-- What `srt_close` has been called with, and may still be called with. -/
structure Closes (σ : State) : Prop where
  once : ClosedOnce σ.trace
  still_open : σ.inUse → ¬ Spent σ.trace σ.context

theorem ClosedOnce.split {later earlier : List Event} {s : SRTSOCKET} {r : Int}
    (h : ClosedOnce (later ++ .srtClose s r :: earlier)) : Handed earlier s ∧ ¬ Spent earlier s := by
  induction later with
  | nil => exact h.1 s r rfl
  | cons e later ih => exact ih h.2

theorem ClosedOnce.handed {trace : List Event} {s : SRTSOCKET} {r : Int} (h : ClosedOnce trace)
    (hmem : .srtClose s r ∈ trace) : Handed trace s := by
  obtain ⟨later, earlier, rfl⟩ := List.append_of_mem hmem
  exact h.split.1.imp (fun hc => by simp [hc]) (fun ha => by simp [ha])

section

variable {cb : Callbacks} {σ σ' : State} {t u : Tid} {i : Input} {news : List Event}
  {ok : State → Tid × Input → Prop}

/-- A call other than `srt_close` and `srt_accept` spends nothing. -/
theorem spent_cons {trace : List Event} {e : Event} {s : SRTSOCKET}
    (hclose : ∀ r, e ≠ .srtClose s r) (haccept : e ≠ .srtAccept s) :
    Spent (e :: trace) s ↔ Spent trace s := by
  unfold Spent
  simp [Ne.symm haccept, fun r => Ne.symm (hclose r)]

/-- `srt_close` is called with open sockets only. -/
theorem Written.closedOnce (hw : Written cb σ t news) (hclients : Clients cb σ)
    (hsock : Sockets σ) (hregistry : Registry σ) (h : ClosedOnce σ.trace)
    (hown : (σ.pc t).working = true ∨ (σ.pc t).atClose = true → ¬ Spent σ.trace σ.context) :
    ClosedOnce (news ++ σ.trace) := by
  cases hw with
  | nothing => exact h
  | own r hs hp =>
      refine ⟨fun s r' heq => ?_, h⟩
      cases heq
      exact ⟨.inl (State.mem_created.mp hs), hown hp⟩
  | retire a r ha hmode =>
      have hacc := (accepted_of_live hclients hregistry ha).2
      have hopen := (hclients.not_closed hsock
        (List.mem_append_right _ (List.mem_map_of_mem ha)) hacc).1
      have hclose : ClosedOnce (.srtClose a.1 r :: σ.trace) := by
        refine ⟨fun s r' heq => ?_, h⟩
        cases heq
        refine ⟨.inr (State.mem_accepted.mp hacc), fun hspent => hopen ?_⟩
        obtain ⟨r', hmem, -⟩ := hspent
        exact State.mem_closes.mpr ⟨r', hmem⟩
      unfold reportOf
      split
      · exact ⟨by simp, hclose⟩
      · exact hclose
  | _ => exact ⟨by simp, h⟩

/-- What is written elsewhere does not spend the object's own socket. -/
theorem Written.not_spent (hw : Written cb σ t news) (hclients : Clients cb σ)
    (hsock : Sockets σ) (hregistry : Registry σ) (hcontext : σ.context ∈ σ.created)
    (hnot : ¬ ((σ.pc t).working = true ∨ (σ.pc t).atClose = true))
    (hspent : Spent (news ++ σ.trace) σ.context) : Spent σ.trace σ.context := by
  cases hw with
  | nothing => exact hspent
  | own r hs hp => exact absurd hp hnot
  | accept s hs =>
      refine (spent_cons (by simp) ?_).mp hspent
      intro heq
      cases heq
      exact hs.2 (State.mem_sockets.mpr (.inl hcontext))
  | retire a r ha hmode =>
      have hne : a.1 ≠ σ.context := by
        intro heq
        exact hsock.not_created (accepted_of_live hclients hregistry ha).2 (heq ▸ hcontext)
      have hclose : Spent (.srtClose a.1 r :: σ.trace) σ.context := by
        unfold reportOf at hspent
        split at hspent
        · exact (spent_cons (by simp) (by simp)).mp hspent
        · exact hspent
      exact (spent_cons (by simp [hne]) (by simp)).mp hclose
  | _ => exact (spent_cons (by simp) (by simp)).mp hspent

/-- A start call comes to hold a socket only by obtaining it. -/
theorem Move.working_origin (hm : Move cb σ t i σ') (hu : (σ'.pc u).working = true) :
    (∃ w, (σ.pc w).working = true) ∨ ∃ call, σ.pc t = .start call .create := by
  have hgoto : ∀ {pc : Tid → Pc} {w : Tid} {p : Pc}, p.working = false →
      (Function.update pc w p u).working = true → (pc u).working = true := by
    intro pc w p hp hu
    rcases of_update (P := fun p => p.working = true) hu with ⟨-, hnew⟩ | hold
    · simp [hp] at hnew
    · exact hold
  cases hm with
  | silent hp hs =>
      rcases of_update (P := fun p => p.working = true) hu with ⟨-, hnew⟩ | hold
      · exact .inl ⟨t, by rw [hp, ← hs.working_eq]; exact hnew⟩
      · exact .inl ⟨u, hold⟩
  | enter c hp => exact .inl ⟨u, hgoto (by cases c <;> rfl) hu⟩
  | takeNet hp hs hfree => exact .inl ⟨u, hgoto (by cases hs <;> rfl) hu⟩
  | dropNet hp hs => exact .inl ⟨u, hgoto (by cases hs <;> rfl) hu⟩
  | create hp hpc hs => exact .inr ⟨_, hp⟩
  | publishServer hp hfree => exact .inl ⟨u, hgoto rfl (hgoto rfl hu)⟩
  | publishClient hp hfree => exact .inl ⟨u, hgoto rfl (hgoto rfl hu)⟩
  | publishFault => exact .inl ⟨u, hu⟩
  | stopClose hp hr =>
      rename_i mode _
      exact .inl ⟨u, hgoto (by cases mode <;> rfl) hu⟩
  | stopSkipClose hp hcontext =>
      rename_i mode
      exact .inl ⟨u, hgoto (by cases mode <;> rfl) hu⟩
  | sweepClear hp =>
      rename_i caller
      exact .inl ⟨u, hgoto (by cases caller <;> rfl) hu⟩
  | spawnEvent ready hp hfree => exact .inl ⟨u, hgoto rfl (hgoto rfl hu)⟩
  | spawnFault => exact .inl ⟨u, hu⟩
  | readEnd => exact .inl ⟨u, hu⟩
  | _ => exact .inl ⟨u, hgoto rfl hu⟩

/-- Steps that leave the object's own socket alone. -/
theorem Closes.quiet (h : Closes σ) (hreach : (system cb).ReachableUnder ok σ)
    (hm : Move cb σ t i σ') (hcreate : ∀ call, σ.pc t ≠ .start call .create)
    (hcontext : σ'.context = σ.context) (hmode : σ'.currentMode = σ.currentMode)
    (hspent : σ.inUse → Spent σ'.trace σ.context → Spent σ.trace σ.context) :
    σ'.inUse → ¬ Spent σ'.trace σ'.context := by
  intro huse
  have hold : σ.inUse := by
    rcases huse with ⟨hne, hpast⟩ | ⟨u, hu⟩
    · refine .inl ⟨hmode ▸ hne, fun u => ?_⟩
      by_contra hold
      rcases pastClose_step hreach hm (by simpa using hold) with hkept | ⟨hunknown, -⟩
      · simp [hpast u] at hkept
      · exact hne hunknown
    · refine .inr ((hm.working_origin hu).resolve_right fun hc => ?_)
      obtain ⟨call, hc⟩ := hc
      exact hcreate call hc
  rw [hcontext]
  exact fun hs => h.still_open hold (hspent hold hs)

theorem Pc.eq_of_atClose {p : Pc} (h : p.atClose = true) :
    ∃ dtor mode, p = .stop dtor (.srtClose mode) := by
  cases p with
  | stop dtor pc =>
      cases pc with
      | srtClose mode => exact ⟨dtor, mode, rfl⟩
      | _ => cases h
  | _ => cases h

theorem Silent.not_create {p p' : Pc} (hs : Silent p p') (call : StartCall) :
    p ≠ .start call .create := by
  intro heq
  subst heq
  cases hs with
  | startWork call h h' => cases h

/-- A `stop` that closes its socket works on an object with a mode, so no start
call holds a socket. -/
theorem no_working_at_close (hl : Locks σ) (hlife : Lifecycle σ) {dtor : Bool} {mode : Mode}
    (hp : σ.pc t = .stop dtor (.srtClose mode)) : ∀ u, (σ.pc u).working = false := by
  intro u
  by_contra hu
  rw [Bool.not_eq_false] at hu
  exact (hlife.at_close hl hp).ne_unknown (hlife.working_mode hl hu)

theorem afterClose_pastClose {dtor : Bool} {result : Option Int} {mode : Mode} :
    (afterClose dtor result mode).pastClose = true := by
  cases mode <;> rfl

/-- Past its `srt_close`, `stop` is done with the socket. -/
theorem not_inUse_of_pastClose (hl : Locks σ')
    (hpast : (σ'.pc t).pastClose = true) : ¬ σ'.inUse := by
  intro hinUse
  rcases hinUse with ⟨-, hnone⟩ | ⟨u, hu⟩
  · simp [hnone t] at hpast
  · have hut := hl.net.unique (Pc.pastClose_netDepth hpast) (Pc.working_netDepth hu)
    subst hut
    cases hp : σ'.pc u with
    | start call pc => simp [hp, Pc.pastClose] at hpast
    | _ => simp [hp, Pc.working] at hu

theorem Closes.move (h : Closes σ) (hreach : (system cb).ReachableUnder ok σ)
    (hm : Move cb σ t i σ') : Closes σ' := by
  have hl := locks_reachable hreach
  have hlife := lifecycle_reachable hreach
  have hsock := sockets_reachable hreach
  have hclients := clients_reachable hreach
  have hregistry := registry_reachable hreach
  have hl' := hl.move (threads_reachable hreach) hm
  obtain ⟨news, htrace, hw⟩ := written_of_move hreach hm
  have huse : (σ.pc t).working = true ∨ (σ.pc t).atClose = true → ¬ Spent σ.trace σ.context := by
    intro hp
    refine h.still_open ?_
    rcases hp with hp | hp
    · exact .inr ⟨t, hp⟩
    · obtain ⟨dtor, mode, hp⟩ := Pc.eq_of_atClose hp
      exact .inl ⟨(hlife.at_close hl hp).ne_unknown,
        fun u => not_pastClose hl (by rw [hp]; simp [Pc.netDepth]) (by rw [hp]; rfl) u⟩
  have hother : ¬ ((σ.pc t).working = true ∨ (σ.pc t).atClose = true) → σ.inUse →
      Spent σ'.trace σ.context → Spent σ.trace σ.context := by
    intro hnot hinUse hspent
    rw [htrace] at hspent
    have hcontext := hsock.context (hinUse.imp_left And.left)
    exact hw.not_spent hclients hsock hregistry hcontext hnot hspent
  refine ⟨htrace ▸ hw.closedOnce hclients hsock hregistry h.once huse, ?_⟩
  have hquiet := h.quiet hreach hm
  have hworking := fun u => hm.working_origin (u := u)
  cases hm with
  | silent hp hs =>
      exact hquiet (fun call => hp ▸ hs.not_create call) rfl rfl (fun _ hspent => hspent)
  | createFail hp =>
      obtain ⟨hmode, hwork⟩ := no_session_at_create hl hlife hp
      intro hinUse
      rcases hinUse with ⟨hne, -⟩ | ⟨u, hu⟩
      · exact absurd hmode hne
      · rcases of_update (P := fun p => p.working = true) hu with ⟨-, hq⟩ | hold
        · cases hq
        · simp [hwork u] at hold
  | create hp hpc hs =>
      rename_i s
      intro _ hspent
      obtain ⟨r, hmem, -⟩ := hspent
      have hold : .srtClose s r ∈ σ.trace := by simpa using hmem
      exact hs.2 (State.mem_sockets.mpr ((h.once.handed hold).imp State.mem_created.mpr
        State.mem_accepted.mpr))
  | startClose r hp =>
      have hwork : (σ.pc t).working = true := by rw [hp]; rfl
      intro hinUse
      rcases hinUse with ⟨hne, -⟩ | ⟨u, hu⟩
      · exact absurd (hlife.working_mode hl hwork) hne
      · rcases of_update (P := fun p => p.working = true) hu with ⟨-, hq⟩ | hold
        · cases hq
        · have hut := hl.net.unique (Pc.working_netDepth hwork) (Pc.working_netDepth hold)
          rw [hut] at hu
          simp [Pc.working, StartPc.working] at hu
  | publishServer hp hfree =>
      intro _ hspent
      exact huse (.inl (by rw [hp]; rfl)) ((spent_cons (by simp) (by simp)).mp hspent)
  | publishClient hp hfree =>
      intro _ hspent
      exact huse (.inl (by rw [hp]; rfl)) ((spent_cons (by simp) (by simp)).mp hspent)
  | publishFault server client mode hp hjoinable =>
      exact absurd (hlife.at_publish hl hp).2 hjoinable
  | stopCloseFail hp hi =>
      intro hinUse hspent
      have hcontext := hsock.context (.inl (hlife.at_close hl hp).ne_unknown)
      refine huse (.inr (by rw [hp]; rfl)) ?_
      obtain ⟨r, hmem, hr⟩ := hspent
      have hnotAccepted : .srtAccept σ.context ∉ σ.trace :=
        fun hacc => hsock.not_created (State.mem_accepted.mpr hacc) hcontext
      rcases List.mem_cons.mp hmem with heq | hold
      · cases heq
        exact absurd (by simpa using hr) hnotAccepted
      · exact ⟨r, hold, hr.imp_right fun hacc => by simpa using hacc⟩
  | stopClose hp hr =>
      refine fun hinUse => absurd hinUse ?_
      exact not_inUse_of_pastClose (t := t) hl' (by simp [afterClose_pastClose])
  | stopSkipClose hp hcontext =>
      refine fun hinUse => absurd hinUse ?_
      exact not_inUse_of_pastClose (t := t) hl' (by simp [afterClose_pastClose])
  | joinWorkerClient hp hmode hjoin =>
      intro hinUse
      rcases hinUse with ⟨hne, -⟩ | ⟨u, hu⟩
      · exact absurd rfl hne
      · refine h.still_open (.inr ((hworking u hu).resolve_right fun hc => ?_))
        simp [hp] at hc
  | joinEvent hp hjoin =>
      intro hinUse
      rcases hinUse with ⟨hne, -⟩ | ⟨u, hu⟩
      · exact absurd rfl hne
      · refine h.still_open (.inr ((hworking u hu).resolve_right fun hc => ?_))
        simp [hp] at hc
  | takeNet hp hs hfree =>
      exact hquiet (fun call => by rw [hp]; cases hs <;> simp) rfl rfl (fun _ hspent => hspent)
  | dropNet hp hs =>
      exact hquiet (fun call => by rw [hp]; cases hs <;> simp) rfl rfl (fun _ hspent => hspent)
  | startCheck _ _ hp => exact hquiet (by simp [hp]) rfl rfl (fun _ hspent => hspent)
  | startLeak hp hpc hleak hexit =>
      exact hquiet (fun call heq => by rw [hp] at heq; cases heq; cases hpc) rfl rfl
        (fun _ hspent => hspent)
  | _ =>
      exact hquiet (by simp [*]) rfl rfl (hother (by simp [*, Pc.working, StartPc.working, Pc.atClose]))

theorem closes_reachable (h : (system cb).ReachableUnder ok σ) : Closes σ := by
  refine invariant_of_moves (P := Closes) ?_ ?_ h
  · exact ⟨trivial, fun _ hspent => by simp [Spent, State.init] at hspent⟩
  · intro σ t i σ' hreach hs _ _ hm
    exact hs.move hreach hm

/-- **Closed once.**  A socket is passed to `srt_close` only after SRT has
handed it out; once a `srt_close` of it has succeeded it is never passed to
`srt_close` again, by no thread and in no later session, and a client's socket
is not even if it has failed. -/
theorem closed_once (h : (system cb).Reachable σ) {later earlier : List Event} {s : SRTSOCKET}
    {r : Int} (htrace : σ.trace = later ++ .srtClose s r :: earlier) :
    Handed earlier s ∧
      (r ≠ SRT_ERROR ∨ .srtAccept s ∈ earlier → ∀ r', .srtClose s r' ∉ later) := by
  have honce := (closes_reachable h).once
  rw [htrace] at honce
  refine ⟨honce.split.1, fun hdone r' hmem => ?_⟩
  obtain ⟨later', middle, rfl⟩ := List.append_of_mem hmem
  rw [List.append_assoc, List.cons_append] at honce
  exact honce.split.2 ⟨r, by simp, hdone.imp_right fun hacc => by simp [hacc]⟩

end

/-- A server with one client is stopped; the client session after it is
stopped twice, because the first `srt_close` fails. -/
def retriedStopRun : List (Tid × Input) :=
  startServerRun (.app 0) (testServer 1) 5 ++ serverUpRun 1 3 ++
    schedule (.worker 1) [.tau, .answer 9, .candidate (some 3), .answer 0] ++
    schedule (.app 0) [.call .stop, .tau, .tau, .answer 0, .tau, .answer 0, .done, .tau] ++
    schedule (.worker 1) [.tau] ++ schedule (.event 1) [.tau, .answer 0] ++
    schedule (.app 0) [.tau, .tau, .tau] ++
    startClientRun (.app 0) (testClient 7) 6 ++
    schedule (.app 0) [.call .stop, .tau, .tau, .answer SRT_ERROR, .tau,
      .call .stop, .tau, .tau, .answer 0]

/-- The listener of the first session is never closed again. -/
theorem closed_once_retried :
    ∃ σ, (system allCallbacks).Reachable σ ∧ σ.closes = [6, 6, 9, 5] ∧
      ∃ later earlier, σ.trace = later ++ .srtClose 5 0 :: earlier ∧
        Handed earlier 5 ∧ ∀ r', .srtClose 5 r' ∉ later := by
  have hreach := StepSystem.reachable_get (M := system allCallbacks) retriedStopRun rfl
  have htrace : (((system allCallbacks).run State.init retriedStopRun).get rfl).trace =
      [Event.srtClose 6 0, .srtClose 6 SRT_ERROR, .sessionStart .client, .srtCreateSocket 6,
        .clientDisconnected .server (some 3) 9, .srtClose 9 0] ++ Event.srtClose 5 0 ::
          [.clientConnected 9 (some 3), .srtAccept 9, .sessionStart .server,
            .srtCreateSocket 5] := rfl
  have hclosed := closed_once hreach htrace
  exact ⟨_, hreach, by decide, _, _, htrace, hclosed.1, hclosed.2 (.inl (by decide))⟩

/-! ## Epolls are released -/

/-- Between `srt_epoll_create` and `srt_epoll_release`. -/
def Pc.holdsEpoll : Pc → Bool
  | .waitForSRTClient .epollSet | .waitForSRTClient .spawn => true
  | p => p.kind == .event

/-- Some thread is responsible for an epoll. -/
def State.polling (σ : State) : Prop :=
  ∃ u, (σ.pc u).holdsEpoll = true

/-- The epolls of an object are what the threads responsible know. -/
structure Epolls (σ : State) : Prop where
  polling : σ.polling → σ.epolls = if σ.pollId = SRT_ERROR then [] else [σ.pollId]
  released : ¬ σ.polling → σ.epolls = []

section

variable {cb : Callbacks} {σ σ' : State} {t u : Tid} {i : Input}
  {ok : State → Tid × Input → Prop}

theorem Pc.holdsEpoll_iff {p : Pc} : p.holdsEpoll = true ↔
    p = .waitForSRTClient .epollSet ∨ p = .waitForSRTClient .spawn ∨ p.kind = .event := by
  cases p with
  | waitForSRTClient pc => cases pc <;> simp [Pc.holdsEpoll, Pc.kind]
  | _ => simp [Pc.holdsEpoll]

/-- The thread responsible is the worker before it creates the event thread,
and the event thread afterwards. -/
theorem Lifecycle.holder (h : Lifecycle σ) (ht : Threads σ)
    (hu : (σ.pc u).holdsEpoll = true) :
    σ.workerThread = some u ∧ σ.eventThread = none ∨ σ.eventThread = some u := by
  have hruns := ht.runs u
  have hbefore : ∀ {pc}, σ.pc u = .waitForSRTClient pc → (σ.pc u).beforeSpawn = true →
      σ.workerThread = some u ∧ σ.eventThread = none := by
    intro pc hp hb
    cases u with
    | worker k => exact ⟨h.worker_alive k (.inl (by rw [hp]; rfl)), h.unspawned k hb⟩
    | _ => simp [hp, Pc.kind, Tid.runs] at hruns
  rcases Pc.holdsEpoll_iff.mp hu with hp | hp | hk
  · exact .inl (hbefore hp (by rw [hp]; rfl))
  · exact .inl (hbefore hp (by rw [hp]; rfl))
  · cases u with
    | event k => exact .inr (h.event_alive k hk)
    | _ => simp [hk, Tid.runs] at hruns

theorem Lifecycle.holder_unique (h : Lifecycle σ) (ht : Threads σ)
    (ht' : (σ.pc t).holdsEpoll = true) (hu : (σ.pc u).holdsEpoll = true) : t = u := by
  rcases h.holder ht ht' with ⟨hw, he⟩ | he <;> rcases h.holder ht hu with ⟨hw', he'⟩ | he'
  · exact Option.some.inj (hw.symm.trans hw')
  · simp [he] at he'
  · simp [he'] at he
  · exact Option.some.inj (he.symm.trans he')

/-- Steps of one thread that neither create nor release an epoll. -/
theorem Epolls.local (h : Epolls σ) {p q : Pc} (hp : σ.pc t = p)
    (hpc : σ'.pc = Function.update σ.pc t q) (hq : q.holdsEpoll = p.holdsEpoll)
    (hpoll : σ'.pollId = σ.pollId) (hepolls : σ'.epolls = σ.epolls) : Epolls σ' := by
  have hsame : ∀ u, (σ'.pc u).holdsEpoll = (σ.pc u).holdsEpoll := by
    intro u
    rw [hpc]
    by_cases hu : u = t
    · rw [hu, Function.update_self, hq, hp]
    · rw [Function.update_of_ne hu]
  have hpolling : σ'.polling ↔ σ.polling := by simp only [State.polling, hsame]
  refine ⟨fun hholder => ?_, fun hnone => ?_⟩
  · rw [hepolls, hpoll]
    exact h.polling (hpolling.mp hholder)
  · rw [hepolls]
    exact h.released fun hold => hnone (hpolling.mpr hold)

theorem Epolls.move (h : Epolls σ) (ht : Threads σ) (hl : Locks σ) (hlife : Lifecycle σ)
    (hm : Move cb σ t i σ') : Epolls σ' := by
  have hunborn : σ.pc (.worker (σ.session + 1)) = .idle := (ht.unborn _ (by omega)).1
  have hne : ∀ {call}, σ.pc t = .start call .publish → t ≠ .worker (σ.session + 1) := by
    intro call hp heq
    simp [heq, hunborn] at hp
  cases hm with
  | silent hp hs => exact h.local hp rfl (by cases hs <;> rfl) rfl rfl
  | enter c hp => exact h.local hp rfl (by cases c <;> rfl) rfl rfl
  | takeNet hp hs hfree => exact h.local hp rfl (by cases hs <;> rfl) rfl rfl
  | dropNet hp hs => exact h.local hp rfl (by cases hs <;> rfl) rfl rfl
  | stopClose hp hr =>
      rename_i mode _
      exact h.local hp rfl (by cases mode <;> rfl) rfl rfl
  | stopSkipClose hp hcontext =>
      rename_i mode
      exact h.local hp rfl (by cases mode <;> rfl) rfl rfl
  | sweepClear hp =>
      rename_i caller
      exact h.local hp rfl (by cases caller <;> rfl) rfl rfl
  | publishServer hp hfree =>
      have hmid : Epolls (σ.goto (.worker (σ.session + 1)) (.waitForSRTClient .epollCreate)) :=
        h.local hunborn rfl rfl rfl rfl
      exact hmid.local (p := .start _ .publish) (by simp [hne hp, hp]; rfl) rfl rfl rfl rfl
  | publishClient hp hfree =>
      have hmid : Epolls (σ.goto (.worker (σ.session + 1)) (.clientWorker .head)) :=
        h.local hunborn rfl rfl rfl rfl
      exact hmid.local (p := .start _ .publish) (by simp [hne hp, hp]; rfl) rfl rfl rfl rfl
  | publishFault server client mode hp hjoinable =>
      exact absurd (hlife.at_publish hl hp).2 hjoinable
  | epollCreate eid hp =>
      rename_i k
      have hnone : σ.epolls = [] := by
        refine h.released fun hold => ?_
        obtain ⟨u, hu⟩ := hold
        have hworker := hlife.worker_alive k (.inl (by rw [hp]; rfl))
        have hevent := hlife.unspawned k (by rw [hp]; rfl)
        rcases hlife.holder ht hu with ⟨hu', -⟩ | he
        · obtain rfl := Option.some.inj (hworker.symm.trans hu')
          simp [hp, Pc.holdsEpoll, Pc.kind] at hu
        · simp [hevent] at he
      refine ⟨fun _ => by simp [hnone], fun hnot => ?_⟩
      exact absurd ⟨.worker k, by simp [Pc.holdsEpoll]⟩ hnot
  | spawnEvent ready hp hfree =>
      rename_i k
      refine ⟨fun _ => h.polling ⟨.worker k, by rw [hp]; rfl⟩, fun hnot => ?_⟩
      exact absurd ⟨.event k, by simp [Pc.holdsEpoll, Pc.kind]⟩ hnot
  | spawnFault hp hjoinable => exact ⟨h.polling, h.released⟩
  | readEnd => exact ⟨h.polling, h.released⟩
  | epollRelease hp =>
      rename_i k
      have hk : (σ.pc (.event k)).holdsEpoll = true := by rw [hp]; rfl
      have hnow := h.polling ⟨.event k, hk⟩
      refine ⟨fun hold => ?_, fun _ => ?_⟩
      swap
      · show σ.epolls.erase σ.pollId = []
        rw [hnow]
        split <;> simp
      obtain ⟨u, hu⟩ := hold
      rcases of_update (P := fun p => p.holdsEpoll = true) hu with ⟨-, hfinished⟩ | hold
      · cases hfinished
      · obtain rfl := hlife.holder_unique ht hk hold
        simp [Pc.holdsEpoll, Pc.kind] at hu
  | _ =>
      refine h.local (by assumption) rfl ?_ rfl rfl
      rfl

theorem epolls_reachable (h : (system cb).ReachableUnder ok σ) : Epolls σ := by
  refine invariant_of_moves (P := Epolls) ⟨fun hold => ?_, fun _ => rfl⟩ ?_ h
  · obtain ⟨u, hu⟩ := hold
    cases hu
  · intro σ t i σ' hreach hs _ _ hm
    exact hs.move (threads_reachable hreach) (locks_reachable hreach)
      (lifecycle_reachable hreach) hm

/-- Epolls belong to server sessions. -/
theorem Lifecycle.holder_mode (h : Lifecycle σ) (ht : Threads σ)
    (hu : (σ.pc u).holdsEpoll = true) : σ.currentMode = .server := by
  have hruns := ht.runs u
  have haccept : ∀ {pc}, σ.pc u = .waitForSRTClient pc → σ.currentMode = .server := by
    intro pc hp
    cases u with
    | worker k => exact h.accept_mode k (by rw [hp]; rfl)
    | _ => simp [hp, Pc.kind, Tid.runs] at hruns
  rcases Pc.holdsEpoll_iff.mp hu with hp | hp | hk
  · exact haccept hp
  · exact haccept hp
  · cases u with
    | event k => exact (h.handle_event _ (h.event_alive k hk)).2
    | _ => simp [hk, Tid.runs] at hruns

/-- **Epolls are released.**  An object has one epoll at most, the one of
`poll_id_`, and none unless it is a server; the event thread, from its creation
to its `srt_epoll_release`, works on an epoll that exists, unless
`srt_epoll_create` has failed. -/
theorem epolls_released (h : (system cb).Reachable σ) :
    (σ.epolls = [] ∨ σ.epolls = [σ.pollId]) ∧
      (σ.currentMode ≠ .server → σ.epolls = []) ∧
      ∀ k, (σ.pc (.event k)).kind = .event → σ.pollId ≠ SRT_ERROR →
        σ.epolls = [σ.pollId] := by
  have ht := threads_reachable h
  have hlife := lifecycle_reachable h
  have hepolls := epolls_reachable h
  refine ⟨?_, fun hmode => ?_, fun k hk hpoll => ?_⟩
  · by_cases hold : σ.polling
    · rw [hepolls.polling hold]
      split
      · exact .inl rfl
      · exact .inr rfl
    · exact .inl (hepolls.released hold)
  · refine hepolls.released fun hold => ?_
    obtain ⟨u, hu⟩ := hold
    exact hmode (hlife.holder_mode ht hu)
  · rw [hepolls.polling ⟨.event k, Pc.holdsEpoll_iff.mpr (.inr (.inr hk))⟩, if_neg hpoll]

end

/-- The event thread of a server waits for its clients. -/
theorem epolls_released_up :
    ∃ σ, (system allCallbacks).Reachable σ ∧ σ.epolls = [3] ∧
      (σ.currentMode ≠ .server → σ.epolls = []) ∧
      ((σ.pc (.event 1)).kind = .event → σ.pollId ≠ SRT_ERROR → σ.epolls = [σ.pollId]) := by
  have hreach := StepSystem.reachable_get (M := system allCallbacks)
    (startServerRun (.app 0) (testServer 1) 5 ++ serverUpRun 1 3) rfl
  have hreleased := epolls_released hreach
  exact ⟨_, hreach, rfl, hreleased.2.1, hreleased.2.2 1⟩

end SrtNet
