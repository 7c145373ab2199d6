import Mathlib.Data.List.AList
import XrayLite.Lib.Transition

/-! Split-mode XHTTP in `src/transport/xhttp/h2.rs`: a GET and the POSTs on the
same path make one VLESS session, joined through the global `SESSIONS` map.

`handle_xhttp_get` inserts its sender under its path. Its upstream task writes
whatever arrives on the channel to its VLESS handler. When its downstream ends it
removes the path, and its `SessionGuard` removes the path again when the function
returns. A POST (`handle_request`, then `handle_xhttp_post`) looks the path up
once, clones the sender it finds, and sends every body chunk to it. Every task
runs on its own, so a run is any interleaving of their steps. A GET's upstream may
end at any time: the channel closes once no sender is left, and the idle timeout
may also fire.

The VLESS handlers, the download direction and the waiting loop of a POST (it only
delays the lookup) are not modelled; a POST that finds no session is served by
`handle_standalone`.
-/

set_option autoImplicit false

namespace XrayLite.Xhttp

inductive GetPhase where
  -- the downstream loop runs
  | streaming
  -- the downstream loop ended and `SESSIONS.remove(&path)` ran; waiting for the upstream task
  | draining
  -- the function returned and the guard removed `path` once more
  | finished
  deriving DecidableEq, Repr

structure GetTask where
  path : String
  phase : GetPhase
  -- the upstream task still receives from the channel
  receiving : Bool
  -- the chunks the upstream task wrote to the VLESS handler, in order
  delivered : List (List UInt8)
  deriving DecidableEq, Repr

structure PostTask where
  path : String
  -- the GET whose sender it cloned; `none` when it found no session
  target : Option Nat
  forwarding : Bool
  -- the body chunks it passed to `tx.send`, in order
  sent : List (List UInt8)
  deriving DecidableEq, Repr

/-- The shared map and every task so far; a task's index is its identity. -/
structure SplitState where
  -- `SESSIONS`: a path and the GET whose channel its entry holds
  sessions : AList (fun _ : String => Nat)
  gets : List GetTask
  posts : List PostTask

-- `AList`'s own instance is proved by rewriting and does not evaluate: compare the entries
instance : DecidableEq SplitState := fun a b =>
  decidable_of_iff (a.sessions.entries = b.sessions.entries ∧ a.gets = b.gets ∧ a.posts = b.posts) (by
    obtain ⟨sessions, gets, posts⟩ := a
    obtain ⟨sessions', gets', posts'⟩ := b
    simp [← AList.ext_iff])

def SplitState.init : SplitState := ⟨∅, [], []⟩

inductive SplitAction where
  | getStart (path : String)
  | downstreamEnd (get : Nat)
  | upstreamEnd (get : Nat)
  | getFinish (get : Nat)
  | postStart (path : String)
  | postChunk (post : Nat) (chunk : List UInt8)
  | postEnd (post : Nat)

-- what `tx.send(chunk)` does to the GET behind the sender: the chunk reaches its
-- VLESS handler while its upstream task receives, and is dropped after
def deliver (gets : List GetTask) (get : Nat) (chunk : List UInt8) : List GetTask :=
  match gets[get]? with
  | some task => if task.receiving then gets.set get { task with delivered := task.delivered ++ [chunk] } else gets
  | none => gets

def SplitState.next (s : SplitState) : SplitAction → Option SplitState
  | .getStart path =>
    -- `SESSIONS.insert`: a new channel, in place of any earlier GET's on the same path
    some { s with sessions := s.sessions.insert path s.gets.length, gets := s.gets ++ [⟨path, .streaming, true, []⟩] }
  | .downstreamEnd get =>
    match s.gets[get]? with
    | some task =>
      -- `SESSIONS.remove(&path)` takes the path's entry, whichever GET it holds
      if task.phase = .streaming then
        some { s with sessions := s.sessions.erase task.path, gets := s.gets.set get { task with phase := .draining } }
      else none
    | none => none
  | .upstreamEnd get =>
    match s.gets[get]? with
    | some task => if task.receiving then some { s with gets := s.gets.set get { task with receiving := false } } else none
    | none => none
  | .getFinish get =>
    match s.gets[get]? with
    | some task =>
      -- `up_handle.await` has returned; the guard's `drop` removes by path as well
      if task.phase = .draining ∧ task.receiving = false then
        some { s with sessions := s.sessions.erase task.path, gets := s.gets.set get { task with phase := .finished } }
      else none
    | none => none
  | .postStart path =>
    -- `SESSIONS.get(&path).map(|s| s.to_vless_tx.clone())`
    some { s with posts := s.posts ++ [⟨path, s.sessions.lookup path, true, []⟩] }
  | .postChunk post chunk =>
    match s.posts[post]? with
    | some task =>
      match task.target with
      | some get =>
        if task.forwarding then
          some { s with gets := deliver s.gets get chunk, posts := s.posts.set post { task with sent := task.sent ++ [chunk] } }
        else none
      | none => none
    | none => none
  | .postEnd post =>
    match s.posts[post]? with
    | some task => if task.forwarding then some { s with posts := s.posts.set post { task with forwarding := false } } else none
    | none => none

section Lists

variable {α : Type}

theorem getElem?_append_singleton (l : List α) (x : α) (j : Nat) :
    (l ++ [x])[j]? = if j = l.length then some x else l[j]? := by
  split
  case isTrue last => simp [last]
  case isFalse other =>
    rcases Nat.lt_or_gt_of_ne other with inside | outside
    case inl => exact List.getElem?_append_left inside
    case inr => simp [List.getElem?_eq_none (show l.length ≤ j by omega), List.getElem?_eq_none (show (l ++ [x]).length ≤ j by simp; omega)]

theorem getElem?_set_of_getElem? {l : List α} {i : Nat} {a : α} (b : α) (at_ : l[i]? = some a) (j : Nat) :
    (l.set i b)[j]? = if i = j then some b else l[j]? := by
  have inside : i < l.length := (List.getElem?_eq_some_iff.mp at_).1
  rw [List.getElem?_set]
  split <;> simp_all

end Lists

section Steps

variable {s s' : SplitState}

theorem next_getStart {path : String} (stepped : s.next (.getStart path) = some s') :
    s' = { s with sessions := s.sessions.insert path s.gets.length, gets := s.gets ++ [⟨path, .streaming, true, []⟩] } := by
  simp only [SplitState.next, Option.some.injEq] at stepped
  exact stepped.symm

theorem next_removes {get : Nat} (stepped : s.next (.downstreamEnd get) = some s' ∨ s.next (.getFinish get) = some s') :
    ∃ task phase, s.gets[get]? = some task ∧
      s' = { s with sessions := s.sessions.erase task.path, gets := s.gets.set get { task with phase } } := by
  rcases stepped with stepped | stepped
  case inl =>
    simp only [SplitState.next] at stepped
    split at stepped
    case h_1 task found =>
      split at stepped
      case isTrue => cases stepped; exact ⟨task, _, found, rfl⟩
      case isFalse => cases stepped
    case h_2 => cases stepped
  case inr =>
    simp only [SplitState.next] at stepped
    split at stepped
    case h_1 task found =>
      split at stepped
      case isTrue => cases stepped; exact ⟨task, _, found, rfl⟩
      case isFalse => cases stepped
    case h_2 => cases stepped

theorem next_upstreamEnd {get : Nat} (stepped : s.next (.upstreamEnd get) = some s') :
    ∃ task, s.gets[get]? = some task ∧ s' = { s with gets := s.gets.set get { task with receiving := false } } := by
  simp only [SplitState.next] at stepped
  split at stepped
  case h_1 task found =>
    split at stepped
    case isTrue => cases stepped; exact ⟨task, found, rfl⟩
    case isFalse => cases stepped
  case h_2 => cases stepped

theorem next_postStart {path : String} (stepped : s.next (.postStart path) = some s') :
    s' = { s with posts := s.posts ++ [⟨path, s.sessions.lookup path, true, []⟩] } := by
  simp only [SplitState.next, Option.some.injEq] at stepped
  exact stepped.symm

theorem next_postChunk {post : Nat} {chunk : List UInt8} (stepped : s.next (.postChunk post chunk) = some s') :
    ∃ task get, s.posts[post]? = some task ∧ task.target = some get ∧
      s' = { s with gets := deliver s.gets get chunk, posts := s.posts.set post { task with sent := task.sent ++ [chunk] } } := by
  simp only [SplitState.next] at stepped
  split at stepped
  case h_1 task found =>
    split at stepped
    case h_1 get targeted =>
      split at stepped
      case isTrue => cases stepped; exact ⟨task, get, found, targeted, rfl⟩
      case isFalse => cases stepped
    case h_2 => cases stepped
  case h_2 => cases stepped

theorem next_postEnd {post : Nat} (stepped : s.next (.postEnd post) = some s') :
    ∃ task, s.posts[post]? = some task ∧ s' = { s with posts := s.posts.set post { task with forwarding := false } } := by
  simp only [SplitState.next] at stepped
  split at stepped
  case h_1 task found =>
    split at stepped
    case isTrue => cases stepped; exact ⟨task, found, rfl⟩
    case isFalse => cases stepped
  case h_2 => cases stepped

end Steps

theorem getElem?_deliver (gets : List GetTask) (get : Nat) (chunk : List UInt8) (i : Nat) :
    (deliver gets get chunk)[i]? =
      (gets[i]?).map fun task =>
        if i = get ∧ task.receiving then { task with delivered := task.delivered ++ [chunk] } else task := by
  unfold deliver
  cases found : gets[get]? with
  | none =>
    cases atI : gets[i]? with
    | none => rfl
    | some task =>
      have other : i ≠ get := by rintro rfl; simp [found] at atI
      simp [other]
  | some task =>
    dsimp only
    split
    case isTrue receiving =>
      rw [getElem?_set_of_getElem? _ found]
      split
      case isTrue same => subst same; simp [found, receiving]
      case isFalse other => cases gets[i]? <;> simp [Ne.symm other]
    case isFalse idle =>
      cases atI : gets[i]? with
      | none => rfl
      | some task' =>
        by_cases same : i = get
        case pos => subst same; simp_all
        case neg => simp [same]

/-- What holds of the map and the tasks in every state a run reaches. -/
structure SessionsInv (s : SplitState) : Prop where
  -- an entry names a GET on its path whose downstream still runs, and no GET on that
  -- path started after it
  registered : ∀ (path : String) (get : Nat), s.sessions.lookup path = some get →
    ∃ task : GetTask, s.gets[get]? = some task ∧ task.path = path ∧ task.phase = .streaming ∧
      ∀ (later : Nat) (task' : GetTask), get < later → s.gets[later]? = some task' → task'.path ≠ path
  -- a POST's target is a GET on the POST's path
  targeted : ∀ (post : Nat) (task : PostTask) (get : Nat), s.posts[post]? = some task → task.target = some get →
    ∃ getTask : GetTask, s.gets[get]? = some getTask ∧ getTask.path = task.path
  -- every chunk a GET's VLESS handler got was sent by a POST that had looked up that GET
  delivered : ∀ (get : Nat) (task : GetTask) (chunk : List UInt8), s.gets[get]? = some task → chunk ∈ task.delivered →
    ∃ (post : Nat) (postTask : PostTask), s.posts[post]? = some postTask ∧ postTask.target = some get ∧
      chunk ∈ postTask.sent

theorem sessionsInv_init : SessionsInv SplitState.init where
  registered := by intro path get found; simp [SplitState.init] at found
  targeted := by intro post task get found; simp [SplitState.init] at found
  delivered := by intro get task chunk found; simp [SplitState.init] at found

section Preservation

variable {s : SplitState} (inv : SessionsInv s)
include inv

theorem sessionsInv_getStart (path : String) :
    SessionsInv { s with sessions := s.sessions.insert path s.gets.length, gets := s.gets ++ [⟨path, .streaming, true, []⟩] } := by
  constructor
  case registered =>
    intro path' get found
    by_cases same : path' = path
    case pos =>
      subst same
      rw [AList.lookup_insert, Option.some.injEq] at found
      subst found
      refine ⟨⟨path', .streaming, true, []⟩, by simp, rfl, rfl, ?_⟩
      intro later task' after atLater
      simp [List.getElem?_eq_none (show (s.gets ++ [_]).length ≤ later by simp; omega)] at atLater
    case neg =>
      rw [AList.lookup_insert_ne same] at found
      obtain ⟨task, atGet, onPath, streaming, latest⟩ := inv.registered path' get found
      have inside : get < s.gets.length := (List.getElem?_eq_some_iff.mp atGet).1
      refine ⟨task, by rw [getElem?_append_singleton, if_neg (by omega), atGet], onPath, streaming, ?_⟩
      intro later task' after atLater
      rw [getElem?_append_singleton] at atLater
      split at atLater
      case isTrue => cases atLater; exact Ne.symm same
      case isFalse => exact latest later task' after atLater
  case targeted =>
    intro post task get found targeted
    obtain ⟨getTask, atGet, onPath⟩ := inv.targeted post task get found targeted
    have inside : get < s.gets.length := (List.getElem?_eq_some_iff.mp atGet).1
    exact ⟨getTask, by rw [getElem?_append_singleton, if_neg (by omega), atGet], onPath⟩
  case delivered =>
    intro get task chunk found received
    rw [getElem?_append_singleton] at found
    split at found
    case isTrue => cases found; simp at received
    case isFalse => exact inv.delivered get task chunk found received

theorem sessionsInv_setGet {get : Nat} {task : GetTask} (task' : GetTask) (found : s.gets[get]? = some task)
    (samePath : task'.path = task.path) (sameDelivered : task'.delivered = task.delivered)
    (sessions : AList (fun _ : String => Nat))
    (kept : ∀ path h, sessions.lookup path = some h → s.sessions.lookup path = some h ∧ (h = get → task'.phase = .streaming)) :
    SessionsInv { s with sessions, gets := s.gets.set get task' } := by
  have atSet := getElem?_set_of_getElem? task' found
  constructor
  case registered =>
    intro path h entry
    obtain ⟨old, streams⟩ := kept path h entry
    obtain ⟨taskH, atH, onPath, streaming, latest⟩ := inv.registered path h old
    dsimp only
    by_cases same : h = get
    case pos =>
      subst same
      rw [found, Option.some.injEq] at atH
      subst atH
      refine ⟨task', by rw [atSet, if_pos rfl], samePath.trans onPath, streams rfl, ?_⟩
      intro later task'' after atLater
      rw [atSet, if_neg (by omega)] at atLater
      exact latest later task'' after atLater
    case neg =>
      refine ⟨taskH, by rw [atSet, if_neg (Ne.symm same), atH], onPath, streaming, ?_⟩
      intro later task'' after atLater
      rw [atSet] at atLater
      split at atLater
      case isTrue moved =>
        cases atLater
        subst moved
        rw [samePath]
        exact latest get task after found
      case isFalse => exact latest later task'' after atLater
  case targeted =>
    intro post postTask g atPost targeted
    obtain ⟨getTask, atG, onPath⟩ := inv.targeted post postTask g atPost targeted
    dsimp only
    rw [atSet]
    split
    case isTrue same =>
      subst same
      rw [found, Option.some.injEq] at atG
      subst atG
      exact ⟨task', rfl, samePath.trans onPath⟩
    case isFalse => exact ⟨getTask, atG, onPath⟩
  case delivered =>
    intro g taskG chunk atG received
    dsimp only at atG
    rw [atSet] at atG
    split at atG
    case isTrue same =>
      subst same
      cases atG
      rw [sameDelivered] at received
      exact inv.delivered get task chunk found received
    case isFalse => exact inv.delivered g taskG chunk atG received

theorem sessionsInv_setPost {post : Nat} {task : PostTask} (task' : PostTask) (found : s.posts[post]? = some task)
    (samePath : task'.path = task.path) (sameTarget : task'.target = task.target)
    (grows : ∀ chunk ∈ task.sent, chunk ∈ task'.sent) :
    SessionsInv { s with posts := s.posts.set post task' } := by
  have atSet := getElem?_set_of_getElem? task' found
  constructor
  case registered => exact inv.registered
  case targeted =>
    intro k postTask g atK targeted
    dsimp only at atK
    rw [atSet] at atK
    split at atK
    case isTrue => cases atK; rw [samePath]; exact inv.targeted post task g found (sameTarget ▸ targeted)
    case isFalse => exact inv.targeted k postTask g atK targeted
  case delivered =>
    intro g taskG chunk atG received
    obtain ⟨k, postTask, atK, targeted, sent⟩ := inv.delivered g taskG chunk atG received
    dsimp only
    by_cases same : k = post
    case pos =>
      subst same
      rw [found, Option.some.injEq] at atK
      subst atK
      exact ⟨k, task', by rw [atSet, if_pos rfl], sameTarget.trans targeted, grows chunk sent⟩
    case neg => exact ⟨k, postTask, by rw [atSet, if_neg (Ne.symm same), atK], targeted, sent⟩

theorem sessionsInv_deliver {get : Nat} {chunk : List UInt8}
    (sender : ∃ (post : Nat) (task : PostTask), s.posts[post]? = some task ∧ task.target = some get ∧ chunk ∈ task.sent) :
    SessionsInv { s with gets := deliver s.gets get chunk } := by
  have same : ∀ (i : Nat) (task : GetTask), (deliver s.gets get chunk)[i]? = some task →
      ∃ old : GetTask, s.gets[i]? = some old ∧ task.path = old.path ∧ task.phase = old.phase ∧
        ∀ other ∈ task.delivered, other ∈ old.delivered ∨ other = chunk ∧ i = get := by
    intro i task atI
    rw [getElem?_deliver] at atI
    obtain ⟨old, atOld, rfl⟩ := Option.map_eq_some_iff.mp atI
    refine ⟨old, atOld, ?_⟩
    split
    case isTrue chosen => simp [chosen.1]
    case isFalse => exact ⟨rfl, rfl, fun other member => .inl member⟩
  have back : ∀ (i : Nat) (old : GetTask), s.gets[i]? = some old →
      ∃ task : GetTask, (deliver s.gets get chunk)[i]? = some task ∧ task.path = old.path ∧ task.phase = old.phase := by
    intro i old atOld
    rw [getElem?_deliver, atOld, Option.map_some]
    split
    case isTrue => exact ⟨_, rfl, rfl, rfl⟩
    case isFalse => exact ⟨old, rfl, rfl, rfl⟩
  constructor
  case registered =>
    intro path h entry
    obtain ⟨taskH, atH, onPath, streaming, latest⟩ := inv.registered path h entry
    obtain ⟨task, atTask, samePath, samePhase⟩ := back h taskH atH
    refine ⟨task, atTask, samePath.trans onPath, samePhase.trans streaming, ?_⟩
    intro later task' after atLater
    obtain ⟨old, atOld, oldPath, -, -⟩ := same later task' atLater
    rw [oldPath]
    exact latest later old after atOld
  case targeted =>
    intro post postTask g atPost targeted
    obtain ⟨getTask, atG, onPath⟩ := inv.targeted post postTask g atPost targeted
    obtain ⟨task, atTask, samePath, -⟩ := back g getTask atG
    exact ⟨task, atTask, samePath.trans onPath⟩
  case delivered =>
    intro g task other atG received
    obtain ⟨old, atOld, -, -, added⟩ := same g task atG
    rcases added other received with before | ⟨rfl, rfl⟩
    case inl => exact inv.delivered g old other atOld before
    case inr => exact sender

theorem sessionsInv_postStart (path : String) :
    SessionsInv { s with posts := s.posts ++ [⟨path, s.sessions.lookup path, true, []⟩] } := by
  constructor
  case registered => exact inv.registered
  case targeted =>
    intro post task get atPost targeted
    dsimp only at atPost
    rw [getElem?_append_singleton] at atPost
    split at atPost
    case isTrue =>
      cases atPost
      obtain ⟨getTask, atGet, onPath, -, -⟩ := inv.registered path get targeted
      exact ⟨getTask, atGet, onPath⟩
    case isFalse => exact inv.targeted post task get atPost targeted
  case delivered =>
    intro get task chunk atGet received
    obtain ⟨post, postTask, atPost, targeted, sent⟩ := inv.delivered get task chunk atGet received
    have inside : post < s.posts.length := (List.getElem?_eq_some_iff.mp atPost).1
    refine ⟨post, postTask, ?_, targeted, sent⟩
    dsimp only
    rw [getElem?_append_singleton, if_neg (by omega), atPost]

theorem sessionsInv_removes {get : Nat} {task : GetTask} (found : s.gets[get]? = some task) (phase : GetPhase) :
    SessionsInv { s with sessions := s.sessions.erase task.path, gets := s.gets.set get { task with phase } } := by
  apply sessionsInv_setGet inv { task with phase } found rfl rfl
  intro path h entry
  have other : path ≠ task.path := by
    rintro rfl
    rw [AList.lookup_erase] at entry
    cases entry
  rw [AList.lookup_erase_ne other] at entry
  refine ⟨entry, ?_⟩
  rintro rfl
  obtain ⟨taskH, atH, onPath, -, -⟩ := inv.registered path h entry
  rw [found, Option.some.injEq] at atH
  subst atH
  exact absurd onPath.symm other

end Preservation

theorem sessionsInv_next {s s' : SplitState} {action : SplitAction} (inv : SessionsInv s)
    (stepped : s.next action = some s') : SessionsInv s' := by
  cases action with
  | getStart path =>
    rw [next_getStart stepped]
    exact sessionsInv_getStart inv path
  | downstreamEnd get =>
    obtain ⟨task, phase, found, rfl⟩ := next_removes (.inl stepped)
    exact sessionsInv_removes inv found phase
  | getFinish get =>
    obtain ⟨task, phase, found, rfl⟩ := next_removes (.inr stepped)
    exact sessionsInv_removes inv found phase
  | upstreamEnd get =>
    obtain ⟨task, found, rfl⟩ := next_upstreamEnd stepped
    apply sessionsInv_setGet inv { task with receiving := false } found rfl rfl
    intro path h entry
    refine ⟨entry, ?_⟩
    rintro rfl
    obtain ⟨taskH, atH, -, streaming, -⟩ := inv.registered path h entry
    rw [found, Option.some.injEq] at atH
    subst atH
    exact streaming
  | postStart path =>
    rw [next_postStart stepped]
    exact sessionsInv_postStart inv path
  | postChunk post chunk =>
    obtain ⟨task, get, found, targeted, rfl⟩ := next_postChunk stepped
    have recorded := sessionsInv_setPost inv { task with sent := task.sent ++ [chunk] } found rfl rfl
      (fun c member => List.mem_append_left _ member)
    refine sessionsInv_deliver recorded ⟨post, { task with sent := task.sent ++ [chunk] }, ?_, targeted, by simp⟩
    rw [getElem?_set_of_getElem? _ found, if_pos rfl]
  | postEnd post =>
    obtain ⟨task, found, rfl⟩ := next_postEnd stepped
    exact sessionsInv_setPost inv { task with forwarding := false } found rfl rfl (fun c member => member)

/-- Under every interleaving of GETs and POSTs: a POST finds only a GET on its path whose
downstream still runs and that no GET on the path has followed; it forwards to that
GET only; and a GET's VLESS handler receives only chunks that POSTs which found it sent. -/
theorem split_sessions_isolated (s : SplitState)
    (reached : Transition.Reachable SplitState.next (· = SplitState.init) s) : SessionsInv s := by
  refine Transition.Reachable.invariant ?_ ?_ reached
  case refine_1 =>
    intro start initial
    rw [initial]
    exact sessionsInv_init
  case refine_2 =>
    intro s action s' inv stepped
    exact sessionsInv_next inv stepped

/-- GET 0 and then GET 1 on one path, a POST that found GET 0 before GET 1 started and
sends `[7]`, the end of GET 0's downstream, and a second POST on the path. -/
theorem reachable_taken_over :
    Transition.Reachable SplitState.next (· = SplitState.init)
      ⟨∅, [⟨"/p", .draining, true, [[7]]⟩, ⟨"/p", .streaming, true, []⟩],
        [⟨"/p", some 0, true, [[7]]⟩, ⟨"/p", none, true, []⟩]⟩ := by
  refine Transition.Reachable.of_exec (Transition.Reachable.init rfl)
    (?_ : Transition.exec SplitState.next _
      [.getStart "/p", .postStart "/p", .getStart "/p", .postChunk 0 [7], .downstreamEnd 0, .postStart "/p"] = _)
  decide +kernel

theorem split_sessions_isolated_taken_over :
    SessionsInv ⟨∅, [⟨"/p", .draining, true, [[7]]⟩, ⟨"/p", .streaming, true, []⟩],
      [⟨"/p", some 0, true, [[7]]⟩, ⟨"/p", none, true, []⟩]⟩ :=
  split_sessions_isolated _ reachable_taken_over

/-- In that run the chunk reaches GET 0 although GET 1 registered the path after it, and
GET 0's end removes GET 1's entry while GET 1 still streams: the second POST finds no
session and is served standalone. -/
theorem split_session_taken_over :
    let s : SplitState := ⟨∅, [⟨"/p", .draining, true, [[7]]⟩, ⟨"/p", .streaming, true, []⟩],
      [⟨"/p", some 0, true, [[7]]⟩, ⟨"/p", none, true, []⟩]⟩
    Transition.Reachable SplitState.next (· = SplitState.init) s ∧
      s.gets.map (·.path) = ["/p", "/p"] ∧ s.gets.map (·.delivered) = [[[7]], []] ∧
      s.gets.map (·.phase) = [.draining, .streaming] ∧ s.sessions.lookup "/p" = none ∧
      s.posts.map (·.target) = [some 0, none] := by
  intro s
  refine ⟨reachable_taken_over, ?_⟩
  decide +kernel

end XrayLite.Xhttp
