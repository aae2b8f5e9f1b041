import FaultFinder.Proofs.Service.Run
import FaultFinder.Proofs.Startup
import Mathlib.Data.List.Nodup

/-!
# Retrieving sessions

A session that was answered to a request for a diagnosis can be retrieved later,
by its identifier and in the list of the newest sessions, exactly when it was
recorded, no sessions have been removed since, and fewer sessions have been
recorded since than the history keeps.  The list goes on with the sessions that
were loaded at the start, as long as there is room and none were removed.
-/

namespace FaultFinder
namespace Service

/-! ## Requests for sessions -/

/-- The request asks for the session with an identifier, in any spelling of it. -/
structure Request.AsksFor (request : Request) (uuid : Uuid) : Prop where
  /-- The request reads. -/
  isGet : request.method = .get
  /-- The last part of the path spells the identifier. -/
  isSpelled : ∃ encoded,
    request.path = (Route.historyPath ++ "/").toList ++ encoded ∧ '/' ∉ encoded ∧
      ((Text.percentSymbols encoded).mapM id).bind Uuid.read = some uuid

/-- The request asks for the newest sessions, up to a limit if it sets one. -/
structure Request.AsksForNewest (request : Request) (limit : Option Nat) : Prop where
  /-- The request reads. -/
  isGet : request.method = .get
  /-- The path is that of the sessions. -/
  isPath : request.path = Route.historyPath.toList
  /-- The query sets the limit. -/
  isLimit : limit? request.query = .ok limit

theorem Route.ofPath?_sessionPath
    {encoded : List Char}
    (nonempty : encoded ≠ [])
    (isPart : '/' ∉ encoded) :
    ofPath? ((historyPath ++ "/").toList ++ encoded) = some (.session encoded) := by
  have notFixed :
      fixed.find? (fun named => named.1.toList = (historyPath ++ "/").toList ++ encoded) =
        none := by
    rw [List.find?_eq_none]
    intro named member same
    have starts : (historyPath ++ "/").toList <+: named.1.toList :=
      ⟨encoded, (of_decide_eq_true same).symm⟩
    have none : ∀ named ∈ fixed, ¬(historyPath ++ "/").toList <+: named.1.toList := by decide
    exact none named member starts
  have isSession :
      ofSessionPath? ((historyPath ++ "/").toList ++ encoded) = some (.session encoded) := by
    rw [ofSessionPath?]
    simp [nonempty, isPart]
  rw [ofPath?, notFixed]
  exact isSession

theorem percentSymbols_nil : Text.percentSymbols [] = [] := by
  rw [Text.percentSymbols, Text.symbolsOfBytes, Text.symbolsFrom, dif_neg (by decide +kernel)]

namespace Server

variable
    (server : Server)
    {call : Call}

theorem reply_of_asksFor
    {uuid : Uuid}
    (asks : call.request.AsksFor uuid) :
    server.reply call =
      match server.sessions.find? (·.id = uuid) with
      | some session => .ok session.toJson
      | none => .ofError (.notFound s!"session {String.ofList uuid.text} not found") := by
  obtain ⟨isGet, encoded, isPath, isPart, isRead⟩ := asks
  have nonempty : encoded ≠ [] := by
    rintro rfl
    rw [percentSymbols_nil] at isRead
    cases isRead
  have isRoute := Route.ofPath?_sessionPath nonempty isPart
  rw [← isPath] at isRoute
  rw [reply, exchange, handle, isRoute]
  simp only [isGet, Route.allows, Bool.not_true, Bool.false_eq_true, if_false, readReply,
    sessionReply, isRead]
  rfl

theorem reply_of_asksForNewest
    {limit : Option Nat}
    (asks : call.request.AsksForNewest limit) :
    server.reply call =
      .ok (listJson Session.toJson
        (server.sessions.take
          (min (limit.getD server.service.history.capacity) server.service.history.capacity))) := by
  obtain ⟨isGet, isPath, isLimit⟩ := asks
  have isRoute := Route.ofPath?_historyPath
  rw [← isPath] at isRoute
  rw [reply, exchange, handle, isRoute]
  simp only [isGet, Route.allows, Bool.not_true, Bool.false_eq_true, if_false, readReply,
    historyReply, isLimit]
  rfl

theorem reply_of_isRemoval
    (isRemoval : call.IsRemoval)
    (allowed : server.CanWrite call) :
    server.reply call = .ok (.ofMembers [("cleared", .ofNat server.sessions.length)]) := by
  have updated := History.replace_of_canReplace allowed [] server.service.history.size
  rw [reply, server.exchange_of_isRemoval isRemoval, clearHistory, History.clear]
  simp only [store] at updated
  rw [updated]
  rfl

/-- Sessions that cannot be removed stay, and the answer says so. -/
theorem exchange_of_isRemoval_of_not_canWrite
    (isRemoval : call.IsRemoval)
    (refused : ¬server.CanWrite call) :
    ∃ cause,
      server.exchange call = ⟨.ofError (.storage cause), server.service, server.file⟩ := by
  obtain ⟨cause, updated⟩ :=
    History.replace_of_not_canReplace refused [] server.service.history.size
  refine ⟨cause, ?_⟩
  rw [server.exchange_of_isRemoval isRemoval, clearHistory, History.clear]
  simp only [store] at updated
  rw [updated]

/-! ## Posted sessions -/

/-- The call is a request for a diagnosis that is answered with a session. -/
def Posts (server : Server) (call : Call) (session : Session) : Prop :=
  call.IsPost ∧ server.reply call = .ok (diagnosisJson session)

theorem status_ne_of_submittedSymptoms_error
    {request : Request}
    {reply : Reply}
    (refused : submittedSymptoms request = .error reply) :
    reply.status ≠ 200 := by
  by_cases submits : ∃ symptoms, request.Submits symptoms
  · obtain ⟨symptoms, submits⟩ := submits
    rw [submittedSymptoms_of_submits submits] at refused
    split at refused
    · cases refused
      decide
    · cases refused
  · obtain ⟨status, listed, isRefusal⟩ :=
      submittedSymptoms_of_not_submits (not_exists.1 submits)
    rw [isRefusal] at refused
    cases refused
    intro same
    rw [show status = 200 from same] at listed
    exact absurd listed (by decide)

/-- A call is answered with a session exactly when it makes this session. -/
theorem posts_iff
    {session : Session} :
    server.Posts call session ↔ call.posted? server.service.engine = some session := by
  constructor
  · rintro ⟨isPost, replied⟩
    have handled :=
      handle_diagnosis server.service isPost.1 isPost.2 call.circumstances server.file
    rw [Call.posted?, if_pos isPost]
    cases submitted : submittedSymptoms call.request with
    | error reply =>
        rw [submitted] at handled
        have notOk := status_ne_of_submittedSymptoms_error submitted
        rw [Server.reply, exchange, handled] at replied
        rw [show reply = _ from replied] at notOk
        exact absurd rfl notOk
    | ok symptoms =>
        rw [submitted] at handled
        rw [Server.reply, exchange, handled] at replied
        simp only [diagnose_eq, Reply.ok, Reply.mk.injEq, ReplyBody.json.injEq, diagnosisJson,
          Json.ofMembers, Json.object.injEq, List.map_cons, List.cons.injEq,
          Prod.mk.injEq] at replied
        have same := Session.eq_of_toJson_eq replied.2.1.2
        exact congrArg some same
  · intro posted
    obtain ⟨symptoms, _, rfl, exchanged⟩ := server.exchange_of_posted? posted
    have isPost : call.IsPost := by
      unfold Call.posted? at posted
      split at posted
      · next isPost => exact isPost
      · cases posted
    refine ⟨isPost, ?_⟩
    rw [reply, exchanged]
    rfl

/-- What a call saves is the session that it is answered with. -/
theorem saved?_eq_some_iff
    {session : Session} :
    server.saved? call = some session ↔ server.Posts call session ∧ server.CanWrite call := by
  rw [posts_iff, saved?]
  split
  · next allowed => exact ⟨fun posted => ⟨posted, allowed⟩, And.left⟩
  · next refused => exact iff_of_false (by simp) fun saves => refused saves.2

theorem posted_cons (call : Call) (calls : List Call) :
    server.posted (call :: calls) =
      (call.posted? server.service.engine).toList ++ (server.step call).posted calls := by
  rw [posted, posted, engine_step, List.filterMap_cons]
  cases call.posted? server.service.engine <;> rfl

theorem posted_append (calls later : List Call) :
    server.posted (calls ++ later) = server.posted calls ++ (server.after calls).posted later := by
  rw [posted, posted, posted, engine_after, List.filterMap_append]

theorem saved?_sublist (call : Call) :
    (server.saved? call).toList.Sublist (call.posted? server.service.engine).toList := by
  rw [saved?]
  split
  · exact .refl _
  · exact List.nil_sublist _

theorem kept_sublist_posted (calls : List Call) :
    (server.kept calls).Sublist (server.posted calls).reverse := by
  induction calls generalizing server with
  | nil => exact .refl _
  | cons call calls inductionHypothesis =>
      rw [kept, posted_cons, List.reverse_append]
      refine (inductionHypothesis (server.step call)).append ?_
      split
      · exact List.nil_sublist _
      · have single (session : Option Session) : session.toList.reverse = session.toList := by
          cases session <;> rfl
        rw [single]
        exact server.saved?_sublist call

/-- Without a removal everything that was saved is kept. -/
theorem kept_of_not_removed
    {calls : List Call}
    (notRemoved : ¬server.Removed calls) :
    server.kept calls = (server.saved calls).reverse := by
  induction calls generalizing server with
  | nil => rfl
  | cons call calls inductionHypothesis =>
      have notLater : ¬(server.step call).Removed calls := fun later => notRemoved (.inr later)
      rw [kept, saved, if_neg notLater, inductionHypothesis _ notLater, List.reverse_append]
      cases server.saved? call <;> rfl

/-! ## Retrievable sessions -/

/-- What a call saves stays available during later calls. -/
structure Stays
    (server : Server)
    (capacity : Nat)
    (call : Call)
    (later : List Call) : Prop where
  /-- The call can change the history. -/
  canWrite : server.CanWrite call
  /-- No later call removes the sessions. -/
  notRemoved : ¬(server.step call).Removed later
  /-- Fewer sessions are saved later than the history keeps. -/
  fewer : ((server.step call).saved later).length < capacity

/-- One of the calls was answered with the session, and the session has stayed since. -/
def Retrievable
    (server : Server)
    (capacity : Nat)
    (calls : List Call)
    (session : Session) : Prop :=
  ∃ before call later,
    calls = before ++ call :: later ∧ (server.after before).Posts call session ∧
      (server.after before).Stays capacity call later

theorem retrievable_cons_iff
    {capacity : Nat}
    {call : Call}
    {calls : List Call}
    {session : Session} :
    server.Retrievable capacity (call :: calls) session ↔
      server.Posts call session ∧ server.Stays capacity call calls ∨
        (server.step call).Retrievable capacity calls session := by
  constructor
  · rintro ⟨before, posting, later, split, posts, stays⟩
    cases before with
    | nil =>
        cases split
        exact .inl ⟨posts, stays⟩
    | cons first before =>
        cases split
        exact .inr ⟨before, posting, later, rfl, posts, stays⟩
  · rintro (⟨posts, stays⟩ | ⟨before, posting, later, rfl, posts, stays⟩)
    · exact ⟨[], call, calls, rfl, posts, stays⟩
    · exact ⟨call :: before, posting, later, rfl, posts, stays⟩

/-- The first of the kept sessions are those that can be retrieved. -/
theorem mem_take_kept_iff
    {capacity : Nat}
    {calls : List Call}
    {session : Session} :
    session ∈ (server.kept calls).take capacity ↔
      server.Retrievable capacity calls session := by
  induction calls generalizing server with
  | nil =>
      apply iff_of_false
      · simp [kept]
      · rintro ⟨before, call, later, split, _⟩
        simp at split
  | cons call calls inductionHypothesis =>
      rw [retrievable_cons_iff, ← inductionHypothesis, kept]
      by_cases later : (server.step call).Removed calls
      · rw [if_pos later, List.append_nil]
        have notStays : ¬server.Stays capacity call calls := fun stays => stays.notRemoved later
        simp [notStays]
      · -- Without a later removal, what is kept before this session is what is saved later.
        have kept : ((server.step call).kept calls).length =
            ((server.step call).saved calls).length := by
          rw [kept_of_not_removed _ later, List.length_reverse]
        rw [if_neg later, List.take_append, List.mem_append, kept, or_comm]
        apply or_congr_left
        constructor
        · intro member
          have fewer : ((server.step call).saved calls).length < capacity := by
            by_contra! full
            rw [Nat.sub_eq_zero_of_le full, List.take_zero] at member
            cases member
          have isSaved := server.saved?_eq_some_iff.1
            (Option.mem_toList.1 (List.mem_of_mem_take member))
          exact ⟨isSaved.1, isSaved.2, later, fewer⟩
        · rintro ⟨posts, stays⟩
          have isSaved := server.saved?_eq_some_iff.2 ⟨posts, stays.canWrite⟩
          obtain ⟨room, isRoom⟩ := Nat.exists_eq_succ_of_ne_zero (Nat.sub_ne_zero_of_lt stays.fewer)
          simp [isSaved, isRoom]

theorem mem_posted_of_retrievable
    {capacity : Nat}
    {calls : List Call}
    {session : Session}
    (retrievable : server.Retrievable capacity calls session) :
    session ∈ server.posted calls := by
  have member := List.mem_of_mem_take (server.mem_take_kept_iff.2 retrievable)
  exact List.mem_reverse.1 ((server.kept_sublist_posted calls).subset member)

theorem mem_posted_of_posts
    {calls : List Call}
    {session : Session}
    (posts : server.Posts call session) :
    session ∈ server.posted (call :: calls) := by
  rw [posted_cons, server.posts_iff.1 posts]
  exact List.mem_append_left _ List.mem_cons_self

/-- When no session is posted twice, it can only be retrieved because of the call that posted it. -/
theorem retrievable_append_iff
    {capacity : Nat}
    {before later : List Call}
    {call : Call}
    {session : Session}
    (distinct : (server.posted (before ++ call :: later)).Nodup)
    (posts : (server.after before).Posts call session) :
    server.Retrievable capacity (before ++ call :: later) session ↔
      (server.after before).Stays capacity call later := by
  -- The induction moves along to the call; no call before or after it posts the session again.
  induction before generalizing server with
  | nil =>
      have notLater : ¬(server.step call).Retrievable capacity later session := by
        intro retrievable
        have again := mem_posted_of_retrievable _ retrievable
        rw [List.nil_append, posted_cons, server.posts_iff.1 posts] at distinct
        exact (List.nodup_cons.1 distinct).1 again
      rw [List.nil_append, retrievable_cons_iff, or_iff_left notLater]
      exact and_iff_right posts
  | cons first before inductionHypothesis =>
      have postsLater : ((server.step first).after before).Posts call session := posts
      have notFirst : ¬server.Posts first session := by
        intro postsFirst
        have again : session ∈ (server.step first).posted (before ++ call :: later) := by
          rw [posted_append]
          exact List.mem_append_right _ (mem_posted_of_posts _ postsLater)
        rw [List.cons_append, posted_cons, server.posts_iff.1 postsFirst] at distinct
        exact (List.nodup_cons.1 distinct).1 again
      rw [List.cons_append, posted_cons] at distinct
      rw [List.cons_append, retrievable_cons_iff,
        or_iff_right fun postsFirst => notFirst postsFirst.1]
      exact inductionHypothesis _ (List.nodup_append.1 distinct).2.1 postsLater

/-! ## The law -/

/-- No identifier is used twice, and none is that of a session that is stored already. -/
structure FreshIds (server : Server) (calls : List Call) : Prop where
  /-- Posted sessions have different identifiers. -/
  distinct : ((server.posted calls).map (·.id)).Nodup
  /-- Stored sessions have other identifiers. -/
  unused : ∀ session ∈ server.posted calls, ∀ other ∈ server.sessions, other.id ≠ session.id

theorem FreshIds.of_append
    {server : Server}
    {calls later : List Call}
    (fresh : server.FreshIds (calls ++ later)) :
    server.FreshIds calls := by
  obtain ⟨distinct, unused⟩ := fresh
  rw [posted_append] at distinct unused
  rw [List.map_append] at distinct
  refine ⟨(List.nodup_append.1 distinct).1, ?_⟩
  intro session member
  exact unused session (List.mem_append_left _ member)

/-- The loaded sessions that are still stored, when so many posted ones are. -/
def retained
    (server : Server)
    (capacity : Nat)
    (loaded : List Session)
    (calls : List Call)
    (count : Nat) : List Session :=
  if server.Removed calls then [] else loaded.take (capacity - count)

/-- The sessions that a server stores: those that can be retrieved, and loaded ones. -/
theorem sessions_after_eq
    {capacity : Nat}
    {loaded : List Session}
    (isCapacity : server.service.history.capacity = capacity)
    (isLoaded : server.sessions = loaded.take capacity)
    (calls : List Call) :
    (server.after calls).sessions =
      (server.kept calls).take capacity ++
        server.retained capacity loaded calls ((server.kept calls).take capacity).length := by
  subst isCapacity
  have remaining :
      server.service.history.capacity -
          ((server.kept calls).take server.service.history.capacity).length =
        server.service.history.capacity - (server.kept calls).length := by
    rw [List.length_take]
    omega
  rw [server.sessions_after isLoaded, List.take_append, retained, remaining]
  split
  · rw [List.take_nil]
  · rfl

/-- A session with a fresh identifier is found exactly when it is stored. -/
theorem find?_eq
    {stored : List Session}
    {session : Session}
    (unique : ∀ other ∈ stored, other.id = session.id → other = session) :
    (session ∈ stored → stored.find? (·.id = session.id) = some session) ∧
      (session ∉ stored → stored.find? (·.id = session.id) = none) := by
  constructor
  · intro member
    cases found : stored.find? (·.id = session.id) with
    | none =>
        rw [List.find?_eq_none] at found
        exact absurd (decide_eq_true rfl) (found session member)
    | some other =>
        have same : other.id = session.id := by simpa using List.find?_some found
        rw [unique other (List.mem_of_find?_eq_some found) same]
  · intro absent
    rw [List.find?_eq_none]
    intro other member same
    rw [unique other member (of_decide_eq_true same)] at member
    exact absent member

/--
The list of the sessions of a server: the posted ones that can be retrieved, the
newest first, and then the loaded ones that are retained.
-/
def IsHistory
    (server : Server)
    (capacity : Nat)
    (loaded : List Session)
    (calls : List Call)
    (listed : List Session) : Prop :=
  ∃ retrievable,
    (∀ session, session ∈ retrievable ↔ server.Retrievable capacity calls session) ∧
      retrievable.Sublist (server.posted calls).reverse ∧
      listed = retrievable ++ server.retained capacity loaded calls retrievable.length

/-- What a server answers about sessions after some calls. -/
structure Retrieves
    (server : Server)
    (capacity : Nat)
    (loaded : List Session)
    (calls : List Call) : Prop where
  /-- A posted session is found by its identifier exactly as long as it stays. -/
  found : ∀ before call later session,
    calls = before ++ call :: later → (server.after before).Posts call session →
      ∀ get : Call, get.request.AsksFor session.id →
        ((server.after calls).reply get = .ok session.toJson ↔
            (server.after before).Stays capacity call later) ∧
          (¬(server.after before).Stays capacity call later →
            (server.after calls).reply get =
              .ofError (.notFound s!"session {String.ofList session.id.text} not found"))
  /-- The list shows the retrievable and the retained sessions, and it is what is removed. -/
  listed : ∃ listed,
    server.IsHistory capacity loaded calls listed ∧ listed.length ≤ capacity ∧
      (∀ (get : Call) limit, get.request.AsksForNewest limit →
        (server.after calls).reply get =
          .ok (.ofMembers
            [ ("data", .ofList Session.toJson
                (listed.take (min (limit.getD capacity) capacity))),
              ("count", .ofNat (listed.take (min (limit.getD capacity) capacity)).length) ])) ∧
      ∀ call : Call, call.IsRemoval → (server.after calls).CanWrite call →
        (server.after calls).reply call = .ok (.ofMembers [("cleared", .ofNat listed.length)])
  /-- A removal that fails is answered with an error and changes nothing. -/
  notRemoved : ∀ call : Call, call.IsRemoval → ¬(server.after calls).CanWrite call →
    (∃ cause, (server.after calls).reply call = .ofError (.storage cause)) ∧
      ((server.after calls).reply call).status = 500 ∧
      (server.after calls).step call = server.after calls

section Law

variable
    {server : Server}
    {capacity : Nat}
    {loaded : List Session}
    (isCapacity : server.service.history.capacity = capacity)
    (isLoaded : server.sessions = loaded.take capacity)
    {calls : List Call}

include isLoaded in
theorem mem_sessions_of_mem_retained
    {count : Nat}
    {session : Session}
    (member : session ∈ server.retained capacity loaded calls count) :
    session ∈ server.sessions := by
  rw [retained] at member
  split at member
  · cases member
  · rw [isLoaded]
    exact List.take_subset_take_left loaded (Nat.sub_le capacity count) member

include isCapacity isLoaded

/-- A posted session is stored exactly when it can be retrieved. -/
theorem mem_sessions_after_iff
    (fresh : server.FreshIds calls)
    {session : Session}
    (posted : session ∈ server.posted calls) :
    session ∈ (server.after calls).sessions ↔ server.Retrievable capacity calls session := by
  have notRetained {count : Nat} : session ∉ server.retained capacity loaded calls count := by
    intro member
    exact fresh.unused session posted session (mem_sessions_of_mem_retained isLoaded member) rfl
  rw [sessions_after_eq server isCapacity isLoaded, List.mem_append, or_iff_left notRetained,
    mem_take_kept_iff]

/-- A stored session with the identifier of a posted one is this session. -/
theorem eq_of_mem_sessions_after
    (fresh : server.FreshIds calls)
    {session other : Session}
    (posted : session ∈ server.posted calls)
    (stored : other ∈ (server.after calls).sessions)
    (same : other.id = session.id) :
    other = session := by
  rw [sessions_after_eq server isCapacity isLoaded, List.mem_append] at stored
  rcases stored with kept | retained
  · have inPosted := (server.kept_sublist_posted calls).subset (List.mem_of_mem_take kept)
    exact List.inj_on_of_nodup_map fresh.distinct (List.mem_reverse.1 inPosted) posted same
  · have stored := mem_sessions_of_mem_retained isLoaded retained
    exact absurd same (fresh.unused session posted other stored)

theorem isHistory_sessions_after :
    server.IsHistory capacity loaded calls (server.after calls).sessions := by
  refine ⟨(server.kept calls).take capacity, ?_, ?_, ?_⟩
  · intro session
    exact server.mem_take_kept_iff
  · exact (List.take_sublist _ _).trans (server.kept_sublist_posted calls)
  · exact sessions_after_eq server isCapacity isLoaded calls

/-- A session that was posted is found exactly as long as it stays. -/
theorem found_after
    {before later : List Call}
    {call get : Call}
    {session : Session}
    (fresh : server.FreshIds (before ++ call :: later))
    (posts : (server.after before).Posts call session)
    (asks : get.request.AsksFor session.id) :
    ((server.after (before ++ call :: later)).reply get = .ok session.toJson ↔
        (server.after before).Stays capacity call later) ∧
      (¬(server.after before).Stays capacity call later →
        (server.after (before ++ call :: later)).reply get =
          .ofError (.notFound s!"session {String.ofList session.id.text} not found")) := by
  have posted : session ∈ server.posted (before ++ call :: later) := by
    rw [posted_append]
    exact List.mem_append_right _ (mem_posted_of_posts _ posts)
  have isStored :
      session ∈ (server.after (before ++ call :: later)).sessions ↔
        (server.after before).Stays capacity call later := by
    rw [mem_sessions_after_iff isCapacity isLoaded fresh posted]
    exact server.retrievable_append_iff (List.Nodup.of_map _ fresh.distinct) posts
  obtain ⟨found, notFound⟩ := find?_eq fun other stored =>
    eq_of_mem_sessions_after isCapacity isLoaded fresh posted stored
  have replied := (server.after (before ++ call :: later)).reply_of_asksFor asks
  by_cases stays : (server.after before).Stays capacity call later
  · rw [found (isStored.2 stays)] at replied
    exact ⟨iff_of_true replied stays, fun notStays => absurd stays notStays⟩
  · rw [notFound fun stored => stays (isStored.1 stored)] at replied
    refine ⟨iff_of_false ?_ stays, fun _ => replied⟩
    rw [replied]
    intro same
    cases congrArg Reply.status same

theorem retrieves_after
    (fresh : server.FreshIds calls) :
    server.Retrieves capacity loaded calls := by
  have sameCapacity := (server.capacity_after calls).trans isCapacity
  refine
    { found := ?found
      listed := ?listed
      notRemoved := ?notRemoved }
  case found =>
      rintro before call later session rfl posts get asks
      exact found_after isCapacity isLoaded fresh posts asks
  case listed =>
      refine ⟨_, isHistory_sessions_after isCapacity isLoaded, ?_, ?_, ?_⟩
      · rw [← sameCapacity]
        exact (server.after calls).service.history.bounded
      · intro get limit asks
        rw [reply_of_asksForNewest _ asks, sameCapacity]
        rfl
      · intro call isRemoval allowed
        exact reply_of_isRemoval _ isRemoval allowed
  case notRemoved =>
      intro call isRemoval refused
      obtain ⟨cause, exchanged⟩ :=
        (server.after calls).exchange_of_isRemoval_of_not_canWrite isRemoval refused
      rw [reply, step, exchanged]
      exact ⟨⟨cause, rfl⟩, rfl, rfl⟩

end Law

/--
Whatever a service is started with, and whatever it is called with then, its
answers about sessions follow from the calls and from the sessions that the
history file listed at the start.
-/
theorem sessions_retrieved
    {settings : Settings}
    {files : String → File}
    {service : Service}
    (started : (Startup.service settings files).outcome = .ok service) :
    ∃ loaded, Startup.FindsSessions settings.history files loaded ∧
      ∀ (file : File) (calls : List Call), FreshIds ⟨service, file⟩ calls →
        Retrieves ⟨service, file⟩ settings.history.capacity loaded calls := by
  obtain ⟨positive, loaded, finds, isHistory⟩ := Startup.exists_finds_of_outcome started
  have positiveCapacity : max settings.history.capacity 1 = settings.history.capacity :=
    Nat.max_eq_left positive
  have isCapacity : service.history.capacity = settings.history.capacity := by
    rw [isHistory]
    exact positiveCapacity
  refine ⟨loaded, finds, ?_⟩
  intro file calls fresh
  have isLoaded :
      Server.sessions ⟨service, file⟩ = loaded.take settings.history.capacity := by
    rw [sessions, isHistory, History.sessions_ofSessions, positiveCapacity]
  exact retrieves_after isCapacity isLoaded fresh

/-- Settings of a service that keeps one session. -/
def smallSettings : Settings :=
  { history := { capacity := 1 } }

/-- A service that keeps one session. -/
def smallServer : Server :=
  ⟨ofParts (.ofKnowledgeBase .standard) (.inMemory 1), .missing⟩

theorem outcome_smallSettings :
    (Startup.service smallSettings fun _ => .missing).outcome = .ok smallServer.service := by
  have isEngine :
      Engine.withCertainty .standard smallSettings.engine.userCertainty =
        .ok (.ofKnowledgeBase .standard) :=
    dif_pos (by decide +kernel)
  exact Startup.outcome_service_eq_ok_iff.2
    ⟨.standard, .ofKnowledgeBase .standard, .inMemory 1, rfl, isEngine, rfl, rfl⟩

/-- The first click. -/
def firstClick : Call :=
  ⟨clickRequest, firstMinute⟩

/-- The second click. -/
def secondClick : Call :=
  ⟨clickRequest, { firstMinute with freshId := ⟨.replicate 32 ⟨14, by decide⟩⟩ }⟩

/-- A request for the session of the first minute, with one of its letters encoded. -/
def sessionRequest : Request :=
  { method := .get
    target := "/api/v1/history/urn:uuid:%46FFFFFFF-ffff-ffff-ffff-ffffffffffff"
    contentType := none
    body := ByteArray.empty }

theorem sessionRequest_asksFor : sessionRequest.AsksFor firstMinute.freshId := by
  refine ⟨rfl, sessionRequest.path.drop 16, ?_, ?_, ?_⟩
  · decide +kernel
  · decide +kernel
  · decide +kernel

theorem posted?_clickRequest (engine : Engine) (circumstances : Circumstances) :
    Call.posted? engine ⟨clickRequest, circumstances⟩ =
      some (sessionOf engine ["Bunyi klik", "Bunyi klik"] circumstances) := by
  have isPath : clickRequest.path = "/api/v1/diagnose".toList := by decide +kernel
  have isPost : Call.IsPost ⟨clickRequest, circumstances⟩ := ⟨rfl, isPath⟩
  rw [Call.posted?, if_pos isPost, submittedSymptoms_of_submits clickRequest_submits,
    if_neg (List.cons_ne_nil _ _)]

/-- The two clicks are diagnosed in sessions with different identifiers. -/
theorem freshIds_clicks : smallServer.FreshIds [firstClick, secondClick] := by
  have posted :
      smallServer.posted [firstClick, secondClick] =
        [ sessionOf smallServer.service.engine ["Bunyi klik", "Bunyi klik"] firstMinute,
          sessionOf smallServer.service.engine ["Bunyi klik", "Bunyi klik"]
            secondClick.circumstances ] := by
    simp only [posted, firstClick, secondClick, List.filterMap_cons, List.filterMap_nil,
      posted?_clickRequest]
  refine ⟨?_, fun _ _ _ member => absurd member List.not_mem_nil⟩
  rw [posted, List.map_cons, List.map_cons, List.map_nil]
  change [firstMinute.freshId, secondClick.circumstances.freshId].Nodup
  decide

/-- The first session stays until the second click, which takes its place. -/
theorem stays_firstClick :
    smallServer.Stays 1 firstClick [] ∧ ¬smallServer.Stays 1 firstClick [secondClick] := by
  have canWrite (call : Call) : smallServer.CanWrite call := nofun
  have canWriteLater : (smallServer.step firstClick).CanWrite secondClick := by
    intro hasFile
    have inMemory := smallServer.hasFile_step firstClick
    cases inMemory.symm.trans hasFile
  constructor
  · exact ⟨canWrite firstClick, id, Nat.zero_lt_one⟩
  · intro stays
    have notFewer := stays.fewer
    rw [saved, saved, saved?, if_pos canWriteLater, secondClick, posted?_clickRequest] at notFewer
    exact absurd notFewer (lt_irrefl 1)

/-- The session of the first click is found until that of the second one takes its place. -/
theorem sessions_retrieved_clicks :
    (Startup.service smallSettings fun _ => .missing).outcome = .ok smallServer.service ∧
      smallServer.FreshIds [firstClick, secondClick] ∧
      ∃ session,
        smallServer.Posts firstClick session ∧
          (smallServer.after [firstClick]).reply ⟨sessionRequest, firstMinute⟩ =
            .ok session.toJson ∧
          (smallServer.after [firstClick, secondClick]).reply ⟨sessionRequest, firstMinute⟩ =
            .ofError (.notFound "session ffffffff-ffff-ffff-ffff-ffffffffffff not found") := by
  obtain ⟨loaded, finds, retrieves⟩ := sessions_retrieved outcome_smallSettings
  obtain rfl : loaded = [] := finds
  have fresh := freshIds_clicks
  have freshFirst : smallServer.FreshIds [firstClick] :=
    @FreshIds.of_append _ [firstClick] [secondClick] fresh
  have posts := smallServer.posts_iff.2 (posted?_clickRequest _ firstMinute)
  have atFirst := (retrieves .missing [firstClick] freshFirst).found [] firstClick [] _ rfl posts
    ⟨sessionRequest, firstMinute⟩ sessionRequest_asksFor
  have atSecond := (retrieves .missing [firstClick, secondClick] fresh).found [] firstClick
    [secondClick] _ rfl posts ⟨sessionRequest, firstMinute⟩ sessionRequest_asksFor
  exact ⟨outcome_smallSettings, fresh, _, posts, atFirst.1.2 stays_firstClick.1,
    atSecond.2 stays_firstClick.2⟩

end Server
end Service
end FaultFinder
