import Xrtc.SrtNetClientFate

/-!
# The client list and the epoll

`serverEventHandler` learns about a client only through the epoll `poll_id_`.
While a session is active, every client in `client_list_` is subscribed to it,
provided that `srt_epoll_add_usock` never fails (its failure is only logged)
and that no client was inserted behind the back of an earlier `stop`.
-/

namespace SrtNet

/-- The epoll subscription of a client being inserted does not fail. -/
def Subscribes (σ : State) (ti : Tid × Input) : Prop :=
  (σ.pc ti.1).inserts = true → ti.2.isError = false

/-- SRT's side of `srt_epoll_add_usock`: it succeeds for existing epolls only. -/
def EpollSound (σ : State) (ti : Tid × Input) : Prop :=
  (σ.pc ti.1).inserts = true → ti.2.isError = false → σ.pollId ∈ σ.epolls

/-- The steps of a run in which clients and subscriptions agree. -/
def KeepsSubscribed (σ : State) (ti : Tid × Input) : Prop :=
  NotLate σ ti ∧ Subscribes σ ti ∧ EpollSound σ ti

instance (σ : State) (ti : Tid × Input) : Decidable (KeepsSubscribed σ ti) :=
  inferInstanceAs (Decidable (NotLate σ ti ∧
    ((σ.pc ti.1).inserts = true → ti.2.isError = false) ∧
    ((σ.pc ti.1).inserts = true → ti.2.isError = false → σ.pollId ∈ σ.epolls)))

/-- `waitForSRTClient` before its accept loop. -/
def Pc.starting : Pc → Bool
  | .waitForSRTClient .epollCreate => true
  | .waitForSRTClient .epollSet => true
  | .waitForSRTClient .spawn => true
  | .closeAllClientSockets .waitForSRTClient _ => true
  | .callback (.sweep .waitForSRTClient _) _ => true
  | _ => false

/-- `serverEventHandler` has left its loop. -/
def Pc.releases : Pc → Bool
  | .serverEventHandler .release => true
  | _ => false

/-- The subscriptions of an active session cover its clients. -/
structure Subscribed (σ : State) : Prop where
  starting : ∀ t, (σ.pc t).starting = true → σ.clientList.isEmpty = true
  releasing : ∀ t, (σ.pc t).releases = true → σ.serverActive = false
  keys : σ.serverActive = true → ∀ s ∈ σ.clientList,
    (σ.pollId, s) ∈ σ.subs ∧ σ.pollId ∈ σ.epolls

/-- The part of the object and of SRT that subscriptions are about. -/
structure EpollView where
  serverActive : Bool
  clientList : Std.TreeMap SRTSOCKET Context
  pollId : Int
  subs : List (Int × SRTSOCKET)
  epolls : List Int

/-- What subscriptions are about. -/
def State.epollView (σ : State) : EpollView where
  serverActive := σ.serverActive
  clientList := σ.clientList
  pollId := σ.pollId
  subs := σ.subs
  epolls := σ.epolls

theorem Pc.starting_kind {p : Pc} (h : p.starting = true) : p.kind = .accept := by
  unfold Pc.starting at h
  split at h <;> first | rfl | cases h

theorem Pc.releases_kind {p : Pc} (h : p.releases = true) : p.kind = .event := by
  unfold Pc.releases at h
  split at h <;> first | rfl | cases h

section

variable {cb : Callbacks} {σ σ' : State} {t : Tid} {i : Input}

/-- The moving thread starts no session that has clients. -/
theorem Subscribed.starting_update (h : Subscribed σ) {q : Pc}
    (hpc : σ'.pc = Function.update σ.pc t q)
    (hstart : q.starting = true → (σ.pc t).starting = true)
    (hlist : σ'.clientList = σ.clientList) :
    ∀ u, (σ'.pc u).starting = true → σ'.clientList.isEmpty = true := by
  intro u hu
  rw [hlist]
  rw [hpc] at hu
  rcases of_update (P := fun p => p.starting = true) hu with ⟨-, hnew⟩ | hold
  · exact h.starting t (hstart hnew)
  · exact h.starting u hold

/-- The moving thread releases the epoll of an inactive session only. -/
theorem Subscribed.release_update (h : Subscribed σ) {q : Pc}
    (hpc : σ'.pc = Function.update σ.pc t q)
    (hrelease : q.releases = true → σ.serverActive = false)
    (hactive : σ'.serverActive = σ.serverActive) :
    ∀ u, (σ'.pc u).releases = true → σ'.serverActive = false := by
  intro u hu
  rw [hactive]
  rw [hpc] at hu
  rcases of_update (P := fun p => p.releases = true) hu with ⟨-, hnew⟩ | hold
  · exact hrelease hnew
  · exact h.releasing u hold

/-- Moves that keep the list and the subscriptions. -/
theorem Subscribed.quiet (h : Subscribed σ) {q : Pc} (hpc : σ'.pc = Function.update σ.pc t q)
    (hview : σ'.epollView = σ.epollView)
    (hstart : q.starting = true → (σ.pc t).starting = true)
    (hrelease : q.releases = true → σ.serverActive = false) : Subscribed σ' := by
  have hlist : σ'.clientList = σ.clientList := congrArg EpollView.clientList hview
  have hactive : σ'.serverActive = σ.serverActive := congrArg EpollView.serverActive hview
  have hpoll : σ'.pollId = σ.pollId := congrArg EpollView.pollId hview
  have hsubs : σ'.subs = σ.subs := congrArg EpollView.subs hview
  have hepolls : σ'.epolls = σ.epolls := congrArg EpollView.epolls hview
  refine ⟨h.starting_update hpc hstart hlist, h.release_update hpc hrelease hactive, ?_⟩
  rw [hlist, hactive, hpoll, hsubs, hepolls]
  exact h.keys

/-- Moves of an inactive session. -/
theorem Subscribed.inactive (h : Subscribed σ) {q : Pc}
    (hpc : σ'.pc = Function.update σ.pc t q)
    (hstart : q.starting = true → (σ.pc t).starting = true)
    (hlist : σ'.clientList = σ.clientList) (hactive : σ'.serverActive = false) :
    Subscribed σ' :=
  ⟨h.starting_update hpc hstart hlist, fun _ _ => hactive, by simp [hactive]⟩

/-- Moves that leave the list empty. -/
theorem Subscribed.of_empty (hlist : σ'.clientList.isEmpty = true)
    (hrelease : ∀ u, (σ'.pc u).releases = true → σ'.serverActive = false) :
    Subscribed σ' := by
  refine ⟨fun _ _ => hlist, hrelease, fun _ s hs => ?_⟩
  exact absurd hs (Std.TreeMap.not_mem_of_isEmpty hlist)

theorem callback_starting (site : CallbackSite) (pc pc' : CallbackPc) :
    (Pc.callback site pc').starting = (Pc.callback site pc).starting := by
  cases site with
  | sweep caller rest => cases caller <;> rfl
  | _ => rfl

theorem Silent.starting {p p' : Pc} (h : Silent p p') (hp : p'.starting = true) :
    p.starting = true := by
  cases h with
  | sweepResume caller rest => cases caller <;> exact hp
  | lockFree site => exact hp
  | _ => first | rfl | cases hp

theorem Batch.next_releases (b : Batch) : (Pc.serverEventHandler b.next).releases = false := by
  unfold Batch.next
  split <;> rfl

theorem afterUwait_releases (fds : Option (List SRTSOCKET)) (ready : List SRTSOCKET) :
    (Pc.serverEventHandler (afterUwait fds ready)).releases = false := by
  unfold afterUwait
  dsimp only
  split <;> split <;> rfl

/-- A session thread is created while there are no clients. -/
theorem Subscribed.spawn (hlist : σ.clientList.isEmpty = true)
    (hrelease : ∀ u, (σ.pc u).releases = true → σ'.serverActive = false) {w : Tid} {p q : Pc}
    (hpc : σ'.pc = Function.update (Function.update σ.pc w p) t q)
    (hpq : p.releases = false ∧ q.releases = false)
    (hlist' : σ'.clientList = σ.clientList) : Subscribed σ' := by
  refine .of_empty (hlist' ▸ hlist) ?_
  intro u hu
  rw [hpc] at hu
  rcases of_update (P := fun p => p.releases = true) hu with ⟨-, hnew⟩ | hu
  · simp [hpq.2] at hnew
  · rcases of_update (P := fun p => p.releases = true) hu with ⟨-, hnew⟩ | hold
    · simp [hpq.1] at hnew
    · exact hrelease u hold

/-- A client is inserted and subscribed. -/
theorem Subscribed.insert (h : Subscribed σ) (ht : Threads σ) (hlife : Lifecycle σ)
    {s : SRTSOCKET} {c : Context} (hp : σ.pc t = .waitForSRTClient (.insert s c))
    (hpc : σ'.pc = Function.update σ.pc t (.waitForSRTClient .head))
    (hlist : σ'.clientList = σ.clientList.insert s c)
    (hactive : σ'.serverActive = σ.serverActive) (hpoll : σ'.pollId = σ.pollId)
    (hsubs : σ'.subs = (σ.pollId, s) :: σ.subs) (hepolls : σ'.epolls = σ.epolls)
    (hsound : σ.pollId ∈ σ.epolls) : Subscribed σ' := by
  refine ⟨?_, h.release_update hpc (by simp [Pc.releases]) hactive, ?_⟩
  · -- the worker that inserts is past its start
    intro u hu
    rw [hpc] at hu
    rcases of_update (P := fun p => p.starting = true) hu with ⟨-, hnew⟩ | hold
    · simp [Pc.starting] at hnew
    · have hut := (stage_eq hlife ht (t := u) rfl (Pc.starting_kind hold)).1
      have htt := (stage_eq hlife ht hp rfl).1
      rw [hut, ← htt, hp] at hold
      simp [Pc.starting] at hold
  · intro hserver s' hs'
    rw [hpoll, hsubs, hepolls]
    refine ⟨?_, hsound⟩
    rw [hlist, Std.TreeMap.mem_insert] at hs'
    rcases hs' with heq | hold
    · have : s = s' := by simpa using heq
      exact this ▸ List.mem_cons_self
    · exact List.mem_cons_of_mem _ (h.keys (hactive ▸ hserver) s' hold).1

/-- `closeAllClientSockets` visits an entry: it runs in `stop`, when the session
is no longer active, or before the accept loop, when there are no clients. -/
theorem Subscribed.visit (h : Subscribed σ) (hl : Locks σ) (hlife : Lifecycle σ)
    {caller : SweepCaller} {pc : SweepPc} {q : Pc}
    (hp : σ.pc t = .closeAllClientSockets caller pc)
    (hpc : σ'.pc = Function.update σ.pc t q)
    (hstart : q.starting = true → (σ.pc t).starting = true) (hrelease : q.releases = false)
    (hlist : σ'.clientList = σ.clientList) (hactive : σ'.serverActive = σ.serverActive) :
    Subscribed σ' := by
  cases caller with
  | stop dtor result =>
      obtain ⟨-, hphase, -⟩ := hlife.phase_of_depth hl hp
        (by simp [Pc.netDepth, SweepCaller.netDepth])
      exact h.inactive hpc hstart hlist (hactive.trans hphase.server)
  | waitForSRTClient =>
      have hempty := h.starting t (by rw [hp]; rfl)
      exact .of_empty (hlist ▸ hempty) (h.release_update hpc (by simp [hrelease]) hactive)

/-- Removing a client ends its own subscriptions only. -/
theorem mem_subs_evict {subs : List (Int × SRTSOCKET)} {sub : Int × SRTSOCKET} {e : Int}
    {s : SRTSOCKET} (hsub : sub ∈ subs) (hne : sub.2 ≠ s) :
    sub ∈ (subs.filter (fun sub => sub ≠ (e, s))).filter (fun sub => sub.2 ≠ s) := by
  have hpair : sub ≠ (e, s) := by
    rintro rfl
    exact hne rfl
  simp [hsub, hne, hpair]

/-- A client is removed after a receive error. -/
theorem Subscribed.evict (h : Subscribed σ) {q : Pc} {s : SRTSOCKET} {c : Context}
    (hpc : σ'.pc = Function.update σ.pc t q) (hq : q.releases = false ∧ q.starting = false)
    (hfind : σ.clientList[s]? = some c) (hlist : σ'.clientList = σ.clientList.erase s)
    (hactive : σ'.serverActive = σ.serverActive) (hpoll : σ'.pollId = σ.pollId)
    (hsubs : ∀ sub ∈ σ.subs, sub.2 ≠ s → sub ∈ σ'.subs) (hepolls : σ'.epolls = σ.epolls) :
    Subscribed σ' := by
  refine ⟨?_, h.release_update hpc (by simp [hq.1]) hactive, ?_⟩
  · intro u hu
    rw [hpc] at hu
    rcases of_update (P := fun p => p.starting = true) hu with ⟨-, hnew⟩ | hold
    · simp [hq.2] at hnew
    · simp [Std.TreeMap.getElem?_of_isEmpty (h.starting u hold)] at hfind
  · intro hserver s' hs'
    rw [hlist, Std.TreeMap.mem_erase] at hs'
    rw [hactive] at hserver
    obtain ⟨hsub, hpollId⟩ := h.keys hserver s' hs'.2
    rw [hpoll, hepolls]
    refine ⟨hsubs _ hsub ?_, hpollId⟩
    rintro rfl
    simp at hs'

theorem Subscribed.move (h : Subscribed σ) (hl : Locks σ) (ht : Threads σ)
    (hlife : Lifecycle σ) (hempty : Emptied σ) (hok : KeepsSubscribed σ (t, i))
    (hm : Move cb σ t i σ') : Subscribed σ' := by
  cases hm with
  | silent hp hs =>
      exact h.quiet rfl rfl (by rw [hp]; exact hs.starting) (by cases hs <;> simp [Pc.releases])
  | enter c hp =>
      exact h.quiet rfl rfl (by cases c <;> simp [Call.enter, Pc.starting])
        (by cases c <;> simp [Call.enter, Pc.releases])
  | askStatistics hp =>
      exact h.quiet rfl rfl (by rw [hp, callback_starting _ _ .user]; exact id)
        (by simp [Pc.releases])
  | takeNet hp hs hfree =>
      refine h.quiet rfl rfl ?_ (by cases hs <;> simp [Pc.releases])
      rw [hp]
      cases hs with
      | callback site => exact fun h => callback_starting site _ _ ▸ h
      | _ => simp [Pc.starting]
  | dropNet hp hs =>
      refine h.quiet rfl rfl ?_ (by cases hs <;> simp [Pc.releases])
      rw [hp]
      cases hs with
      | callback site => exact fun h => callback_starting site _ _ ▸ h
      | _ => simp [Pc.starting]
  | startClose r hp =>
      obtain ⟨-, hphase⟩ := hlife.phase_of_depth hl hp (by simp [Pc.netDepth])
      exact h.inactive rfl (by simp [Pc.starting]) rfl
        (hlife.of_unknown (hphase (.inr rfl))).1
  | publishServer hp hfree =>
      obtain ⟨hmode, -⟩ := hlife.at_publish hl hp
      refine .spawn (hempty.mode (by simp [hmode])) ?_ rfl ⟨rfl, rfl⟩ rfl
      -- the event thread of the last session has been joined
      intro u hu
      have hkind := Pc.releases_kind hu
      have hruns := ht.runs u
      rw [hkind] at hruns
      cases u with
      | event k => exact absurd hkind (hlife.no_event (hlife.of_unknown hmode).2.2.2 k)
      | _ => simp [Tid.runs] at hruns
  | publishClient hp hfree =>
      obtain ⟨hmode, -⟩ := hlife.at_publish hl hp
      exact .spawn (hempty.mode (by simp [hmode])) h.releasing rfl ⟨rfl, rfl⟩ rfl
  | publishFault server client mode hp hjoinable =>
      exact absurd (hlife.at_publish hl hp).2 hjoinable
  | stopServer hp hmode => exact h.inactive rfl (by simp [Pc.starting]) rfl rfl
  | stopCloseFail hp hi =>
      exact h.inactive rfl (by simp [Pc.starting]) rfl (hlife.at_close hl hp).server
  | stopClose hp hr =>
      rename_i mode r
      exact h.inactive rfl (by cases mode <;> simp [afterClose, Pc.starting]) rfl
        (hlife.at_close hl hp).server
  | stopSkipClose hp hcontext =>
      rename_i mode
      exact h.quiet rfl rfl (by cases mode <;> simp [afterClose, Pc.starting])
        (by cases mode <;> simp [afterClose, Pc.releases])
  | sweepLock hp hfree =>
      rename_i caller
      exact h.quiet rfl rfl (by rw [hp]; cases caller <;> exact id) (by simp [Pc.releases])
  | sweepReport r hp hcb =>
      rename_i caller _ _ _
      exact h.visit hl hlife hp rfl (by rw [hp]; cases caller <;> exact id) rfl rfl rfl
  | sweepQuiet r hp hcb =>
      rename_i caller _ _ _
      exact h.visit hl hlife hp rfl (by rw [hp]; cases caller <;> exact id) rfl rfl rfl
  | sweepClear hp =>
      rename_i caller
      refine .of_empty rfl (h.release_update rfl ?_ rfl)
      cases caller <;> simp [SweepCaller.after, Pc.releases]
  | epollCreate eid hp =>
      have hempty := h.starting _ (by rw [hp]; rfl)
      exact .of_empty hempty (h.release_update rfl (by simp [Pc.releases]) rfl)
  | spawnEvent ready hp hfree =>
      exact .spawn (h.starting _ (by rw [hp]; rfl)) h.releasing rfl ⟨rfl, rfl⟩ rfl
  | spawnFault hp hjoinable => exact ⟨h.starting, h.releasing, h.keys⟩
  | insert r hp hfree =>
      rename_i k s c
      have hinserts : (σ.pc (.worker k)).inserts = true := by rw [hp]; rfl
      have hanswer := hok.2.1 hinserts
      have hr : r ≠ SRT_ERROR := by simpa [Input.isError] using hanswer
      exact h.insert ht hlife hp rfl rfl rfl rfl (if_neg hr) rfl (hok.2.2 hinserts hanswer)
  | eventLeave hp hactive =>
      exact h.quiet rfl rfl (by simp [Pc.starting]) (fun _ => hactive)
  | evict r hp hfree hfind hcb =>
      refine h.evict rfl ⟨rfl, rfl⟩ hfind rfl rfl rfl (fun sub hsub hne => ?_) rfl
      exact mem_subs_evict hsub hne
  | evictQuiet r hp hfree hfind hcb =>
      refine h.evict rfl ⟨Batch.next_releases _, rfl⟩ hfind rfl rfl rfl
        (fun sub hsub hne => ?_) rfl
      exact mem_subs_evict hsub hne
  | readEnd hp => exact ⟨h.starting, h.releasing, h.keys⟩
  | epollRelease hp =>
      exact h.inactive rfl (by simp [Pc.starting]) rfl (h.releasing _ (by rw [hp]; rfl))
  | uwait fds hp =>
      exact h.quiet rfl rfl (by simp [Pc.starting]) (by simp [afterUwait_releases])
  | handleSkip hp =>
      exact h.quiet rfl rfl (by simp [Pc.starting]) (by simp [Batch.next_releases])
  | eventDone hp =>
      exact h.quiet rfl rfl (by simp [Pc.starting]) (by simp [Batch.next_releases])
  | _ => exact h.quiet rfl rfl (by simp [Pc.starting]) (by simp [Pc.releases])

end

end SrtNet
