import DeviceWatch.Proofs.Job.Lifecycle

/-!
# Streams follow what is published

A stream shows the latest update of its job, and skips the ones that were overtaken before it was
polled.  Here the updates that operations publish are written down beside the tracker, and each
reader keeps what it has received; streams are opened and polled at any time between operations.

The main result is `streams_follow`.  What carries it is that the feed of a job holds the last of
its published updates and counts those before it, also when the record of the job is gone.
-/

namespace DeviceWatch

/-- One update may come some time before another: the job had not ended, and has moved on. -/
def JobUpdate.Precedes (u v : JobUpdate) : Prop :=
  u.state.isTerminal = false ∧ u.state.MayBecome v.state

def JobUpdate.about (log : List JobUpdate) (id : Uuid) : List JobUpdate :=
  log.filter (·.taskId = id)

namespace Tracker

def answered : Outcome (Option Job) → Option Job
  | .ok j => j
  | .error _ => none

/-- What an operation publishes: the record that it answers with, or that of a running job with the
progress that is reported. -/
def news? (t : Tracker) (o : Operation) : Option JobUpdate :=
  match o with
  | .enqueue _ now | .start _ _ now | .finish _ _ _ _ now | .cancelQueued _ now =>
    (answered (t.perform o).1).map (.ofJob · now)
  | .report id r now =>
    match t.jobs.find? id with
    | some j =>
      if j.state = .running then
        some (.ofJob { j with progress := j.progress.map (·.apply now r) } now)
      else none
    | none => none
  | .prune _ => none

end Tracker

/-- A feed holds the last of some updates and counts the others; it is cut off after an end only. -/
structure Feed.Carries (f : Feed) (us : List JobUpdate) : Prop where
  heard : ∃ earlier, us = earlier ++ [f.latest] ∧ earlier.length = f.revision
  cutOff : f.live = false → f.latest.state.isTerminal = true
  ordered : us.Pairwise JobUpdate.Precedes

/-- The feeds carry what was published, and show the records as they are. -/
structure Tracker.Broadcasts (t : Tracker) (log : List JobUpdate) : Prop where
  silent : ∀ {id}, t.feeds.find? id = none → JobUpdate.about log id = []
  carries : ∀ {id f}, t.feeds.find? id = some f → f.Carries (JobUpdate.about log id)
  current : ∀ {id j f}, t.jobs.find? id = some j → t.feeds.find? id = some f →
    f.latest = .ofJob j f.latest.at'

namespace JobUpdate

theorem nothing_after_end {before after : List JobUpdate} {u : JobUpdate}
    (ordered : (before ++ u :: after).Pairwise Precedes) (ended : u.state.isTerminal = true) :
    after = [] := by
  cases after with
  | nil => rfl
  | cons v rest =>
    have tail := (List.pairwise_append.mp ordered).2.1
    have precedes := (List.pairwise_cons.mp tail).1 v List.mem_cons_self
    rw [precedes.1] at ended
    cases ended

theorem about_append_self {log : List JobUpdate} {u : JobUpdate} :
    about (log ++ [u]) u.taskId = about log u.taskId ++ [u] := by
  simp [about]

theorem about_append_of_ne {log : List JobUpdate} {u : JobUpdate} {id : Uuid}
    (other : id ≠ u.taskId) : about (log ++ [u]) id = about log id := by
  simp [about, Ne.symm other]

end JobUpdate

theorem Feed.Carries.live {f : Feed} {us : List JobUpdate} (h : f.Carries us)
    (goesOn : f.latest.state.isTerminal = false) : f.live = true := by
  apply eq_true_of_ne_false
  intro cut
  rw [h.cutOff cut] at goesOn
  cases goesOn

theorem Feed.Carries.append {f : Feed} {us : List JobUpdate} (h : f.Carries us) {u : JobUpdate}
    (follows : f.latest.Precedes u) :
    ({ f with latest := u, revision := f.revision + 1 } : Feed).Carries (us ++ [u]) := by
  obtain ⟨earlier, rfl, count⟩ := h.heard
  constructor
  · exact ⟨earlier ++ [f.latest], rfl, by simp [count]⟩
  · intro closed
    have live := follows.1
    rw [h.cutOff closed] at live
    cases live
  · have ordered := List.pairwise_append.mp h.ordered
    apply List.pairwise_append.mpr
    refine ⟨h.ordered, List.pairwise_singleton _ _, ?_⟩
    intro v there w last
    obtain rfl := List.mem_singleton.mp last
    rcases List.mem_append.mp there with before | own
    · have precedes := ordered.2.2 v before f.latest (List.mem_singleton_self _)
      exact ⟨precedes.1, precedes.2.trans follows.2⟩
    · obtain rfl := List.mem_singleton.mp own
      exact follows

namespace Tracker

variable {t : Tracker} {log : List JobUpdate} {id : Uuid} {old new : Job} {now : Instant}

theorem broadcasts_empty (historyLimit : Nat) : (empty historyLimit).Broadcasts [] := by
  constructor <;> simp [empty, JobUpdate.about]

theorem Broadcasts.enqueue (h : t.Broadcasts log) (task : Task) (now : Instant)
    (unused : t.feeds.find? task.id = none) :
    (t.enqueue task now).2.Broadcasts (log ++ [.ofJob (task.toJob now) now]) := by
  let u := JobUpdate.ofJob (task.toJob now) now
  have own : JobUpdate.about (log ++ [u]) task.id = [u] := by
    have before := h.silent unused
    rw [show task.id = u.taskId from rfl] at before ⊢
    rw [JobUpdate.about_append_self, before, List.nil_append]
  constructor
  · intro k absent
    by_cases same : k = task.id
    · rw [feeds_enqueue, if_pos same] at absent
      cases absent
    · rw [feeds_enqueue, if_neg same] at absent
      rw [JobUpdate.about_append_of_ne same]
      exact h.silent absent
  · intro k f found
    by_cases same : k = task.id
    · rw [feeds_enqueue, if_pos same] at found
      cases found
      rw [same, own]
      exact ⟨⟨[], rfl, rfl⟩, nofun, List.pairwise_singleton _ _⟩
    · rw [feeds_enqueue, if_neg same] at found
      rw [JobUpdate.about_append_of_ne same]
      exact h.carries found
  · intro k j f stored found
    rw [enqueue_find?] at stored
    by_cases same : k = task.id
    · rw [if_pos same] at stored
      rw [feeds_enqueue, if_pos same] at found
      cases stored
      cases found
      rfl
    · rw [if_neg same] at stored
      rw [feeds_enqueue, if_neg same] at found
      exact h.current stored found

theorem Records.exists_feed (h : t.Records) {j : Job} (stored : t.jobs.find? id = some j) :
    ∃ f, t.feeds.find? id = some f := by
  obtain ⟨f, found, -⟩ := Option.map_eq_some_iff.mp (h.published stored)
  exact ⟨f, found⟩

/-- A record that moves on is published as it is then. -/
theorem Broadcasts.publish (h : t.Broadcasts log) (records : t.Records)
    (stored : t.jobs.find? old.taskId = some old) (advance : old.Advance new) (now : Instant) :
    (t.publish new now).Broadcasts (log ++ [.ofJob new now]) := by
  obtain ⟨f, found⟩ := records.exists_feed stored
  have shown := h.current stored found
  rw [← advance.taskId] at stored found
  let u := JobUpdate.ofJob new now
  have follows : f.latest.Precedes u := by
    rw [shown]
    exact ⟨advance.live, advance.mayBecome⟩
  constructor
  · intro k absent
    by_cases same : k = new.taskId
    · rw [feeds_publish, if_pos same, same, found] at absent
      cases absent
    · rw [feeds_publish, if_neg same] at absent
      rw [JobUpdate.about_append_of_ne same]
      exact h.silent absent
  · intro k g there
    by_cases same : k = new.taskId
    · rw [feeds_publish, if_pos same, same, found] at there
      cases there
      rw [same, show new.taskId = u.taskId from rfl, JobUpdate.about_append_self]
      exact (h.carries found).append follows
    · rw [feeds_publish, if_neg same] at there
      rw [JobUpdate.about_append_of_ne same]
      exact h.carries there
  · intro k j g stored' there
    rw [find?_publish] at stored'
    by_cases same : k = new.taskId
    · rw [if_pos same] at stored'
      rw [feeds_publish, if_pos same, same, found] at there
      cases stored'
      cases there
      rfl
    · rw [if_neg same] at stored'
      rw [feeds_publish, if_neg same] at there
      exact h.current stored' there

theorem Broadcasts.prune (h : t.Broadcasts log) (keep : Nat) :
    (t.prune keep).2.Broadcasts log := by
  let gone := t.oldestTerminal (t.terminalCount - keep)
  constructor
  · intro k absent
    rw [feeds_prune, Option.map_eq_none_iff] at absent
    exact h.silent absent
  · intro k g there
    rw [feeds_prune] at there
    obtain ⟨f, found, rfl⟩ := Option.map_eq_some_iff.mp there
    have carries := h.carries found
    split
    · rename_i isGone
      have isGone : k ∈ gone := by simpa using isGone
      refine ⟨carries.heard, fun _ => ?_, carries.ordered⟩
      -- The record that is dropped has ended, and the feed shows it.
      obtain ⟨e, taken, own⟩ := List.mem_map.mp isGone
      have there := (List.mem_filter.mp (List.mem_of_mem_take taken)).1
      have stored : t.jobs.find? k = some e.2 := own ▸ OrderedMap.find?_eq_some_iff.mpr there
      have ended := isTerminal_of_mem_oldestTerminal isGone stored
      show f.latest.state.isTerminal = true
      rw [h.current stored found]
      exact ended
    · exact carries
  · intro k j g stored there
    rw [feeds_prune] at there
    obtain ⟨f, found, rfl⟩ := Option.map_eq_some_iff.mp there
    have shown := h.current ((t.prune_retains keep).stored stored) found
    split
    · exact shown
    · exact shown

theorem Broadcasts.perform (h : t.Broadcasts log) (records : t.Records) (o : Operation)
    (fresh : ∀ id, o.enqueued? = some id → t.feeds.find? id = none) :
    (t.perform o).2.Broadcasts (log ++ (t.news? o).toList) := by
  have closed {old new : Job} (stored : t.jobs.find? old.taskId = some old)
      (advance : old.Advance new) (now : Instant) :
      ((t.publish new now).prune t.historyLimit).2.Broadcasts (log ++ [.ofJob new now]) :=
    (h.publish records stored advance now).prune _
  cases o with
  | enqueue task now => exact h.enqueue task now (fresh task.id rfl)
  | start id worker now =>
    cases done : t.start id worker now with
    | error e => simpa [Tracker.perform, news?, done, Except.map, settle, answered] using h
    | ok r =>
      obtain ⟨j, t'⟩ := r
      obtain ⟨old, found, rfl, queued, rfl, rfl⟩ := start_eq records.ownIds done
      have published := h.publish records found (.started worker now queued) now
      simpa [Tracker.perform, news?, done, Except.map, settle, answered] using published
  | finish id state error result now =>
    cases done : t.finish id state error result now with
    | error e => simpa [Tracker.perform, news?, done, Except.map, settle, answered] using h
    | ok r =>
      obtain ⟨j, t'⟩ := r
      obtain ⟨old, found, rfl, live, ends, rfl, rfl⟩ := finish_eq records.ownIds done
      have published := closed found (.ended state error result now live ends) now
      simp only [Tracker.perform, news?, done, Except.map, settle, answered, Option.map_some,
        Option.toList_some]
      exact published
  | cancelQueued id now =>
    cases done : t.cancelQueued id now with
    | error e => simpa [Tracker.perform, news?, done, settle, answered] using h
    | ok r =>
      obtain ⟨cancelled, t'⟩ := r
      rcases cancelQueued_eq records.ownIds done with ⟨rfl, rfl⟩ |
        ⟨old, found, rfl, queued, rfl, rfl⟩
      · simpa [Tracker.perform, news?, done, settle, answered] using h
      · have live : old.state.isTerminal = false := by rw [queued]; rfl
        have withdrawn : old.Advance (withdrawn old now) := .ended .cancelled _ none now live rfl
        simp only [Tracker.perform, news?, done, settle, answered, Option.map_some,
          Option.toList_some]
        exact closed found withdrawn now
  | report id r now =>
    cases found : t.jobs.find? id with
    | none => simpa [Tracker.perform, news?, Tracker.report, found] using h
    | some j =>
      by_cases running : j.state = .running
      · have fits := records.fits found
        simp only [Job.Fits, running] at fits
        obtain ⟨p, progress⟩ := Option.isSome_iff_exists.mp fits.2.2.1
        obtain rfl := records.ownIds found
        have published := h.publish records found (.reported (p.apply now r) running) now
        simpa [Tracker.perform, news?, Tracker.report, found, running, progress] using published
      · simpa [Tracker.perform, news?, Tracker.report, found, running] using h
  | prune keep => simpa [Tracker.perform, news?] using h.prune keep

end Tracker

/-- A stream with what it has yielded, and how many updates of its job had been published when it
yielded the last. -/
structure Reader where
  stream : UpdateStream
  items : List JobUpdate := []
  read : Nat := 0

namespace Reader

def poll (r : Reader) (t : Tracker) (published : Nat) : Reader :=
  match r.stream.next t with
  | (.update u, stream) => { stream := stream, items := r.items ++ [u], read := published }
  | (_, stream) => { r with stream := stream }

/-- A reader of some updates: it was opened and has not been polled, or the last of its items is the
update up to which it has read. -/
inductive Follows (us : List JobUpdate) : Reader → Prop
  | opened (id : Uuid) : Follows us { stream := { taskId := id } }
  | reading (id : Uuid) (n : Nat) (u : JobUpdate) (earlier : List JobUpdate)
    (last : us[n]? = some u) (kept : (earlier ++ [u]).Sublist (us.take (n + 1))) :
    Follows us {
      stream := { taskId := id, seen := some n, ended := u.state.isTerminal }
      items := earlier ++ [u]
      read := n + 1 }

variable {r : Reader} {us : List JobUpdate} {t : Tracker} {f : Feed}

/-- What is published later does not change what was read. -/
theorem Follows.append (h : r.Follows us) (more : List JobUpdate) : r.Follows (us ++ more) := by
  cases h with
  | opened id => exact .opened id
  | reading id n u earlier last kept =>
    have within := (List.getElem?_eq_some_iff.mp last).1
    apply Follows.reading
    · rw [List.getElem?_append_left within]
      exact last
    · rw [List.take_append_of_le_length within]
      exact kept

theorem Follows.sublist (h : r.Follows us) : r.items.Sublist us := by
  cases h with
  | opened id => exact List.nil_sublist us
  | reading id n u earlier last kept => exact kept.trans (List.take_sublist _ us)

theorem Follows.behind (h : r.Follows us) {u v : JobUpdate} (last : r.items.getLast? = some u)
    (latest : us.getLast? = some v) (overtaken : u ≠ v) : r.read < us.length := by
  cases h with
  | opened id => cases last
  | reading id n w earlier read kept =>
    simp only [List.getLast?_append, List.getLast?_singleton, Option.some_or,
      Option.some.injEq] at last
    have within := (List.getElem?_eq_some_iff.mp read).1
    by_cases caughtUp : n + 1 = us.length
    · rw [List.getLast?_eq_getElem?, ← caughtUp, Nat.add_sub_cancel, read] at latest
      exact absurd (last.symm.trans (Option.some.inj latest)) overtaken
    · show n + 1 < us.length
      omega

/-- What a poll yields: the latest update, unless it is the last item. -/
theorem Follows.next (h : r.Follows us) (found : t.feeds.find? r.stream.taskId = some f)
    (carries : f.Carries us) :
    (r.items = [] ∧ (r.stream.next t).1 = .update f.latest) ∨
    (∃ u, r.items.getLast? = some u ∧ u.state.isTerminal = true ∧
      (r.stream.next t).1 = .finished) ∨
    (∃ u, r.items.getLast? = some u ∧ u.state.isTerminal = false ∧
      (r.stream.next t).1 = if r.read < us.length then .update f.latest else .pending) := by
  obtain ⟨before, rfl, count⟩ := carries.heard
  cases h with
  | opened id =>
    left
    simp [UpdateStream.next, found]
  | reading id n u earlier last kept =>
    right
    cases ended : u.state.isTerminal with
    | true =>
      left
      refine ⟨u, by simp, ended, ?_⟩
      simp [UpdateStream.next]
    | false =>
      right
      refine ⟨u, by simp, ended, ?_⟩
      have within := (List.getElem?_eq_some_iff.mp last).1
      rw [List.length_append, List.length_singleton] at within
      simp only [UpdateStream.next, found, ← count, Option.some.injEq]
      by_cases caughtUp : n = before.length
      · rw [caughtUp, List.getElem?_concat_length] at last
        have live := carries.live (Option.some.inj last ▸ ended)
        simp [caughtUp, live]
      · have behind : n < before.length := by omega
        simp [caughtUp, behind]

theorem Follows.poll (h : r.Follows us) (found : t.feeds.find? r.stream.taskId = some f)
    (carries : f.Carries us) : (r.poll t us.length).Follows us := by
  obtain ⟨before, rfl, count⟩ := carries.heard
  have last : (before ++ [f.latest])[before.length]? = some f.latest :=
    List.getElem?_concat_length
  have whole : (before ++ [f.latest]).take (before.length + 1) = before ++ [f.latest] :=
    List.take_of_length_le (by simp)
  cases h with
  | opened id =>
    have polled : Reader.poll { stream := { taskId := id } } t (before ++ [f.latest]).length = {
        stream := { taskId := id, seen := some before.length, ended := f.latest.state.isTerminal }
        items := [] ++ [f.latest]
        read := before.length + 1 } := by
      simp [Reader.poll, UpdateStream.next, found, count]
    rw [polled]
    apply Follows.reading id _ _ _ last
    rw [whole]
    exact List.sublist_append_right before [f.latest]
  | reading id n u earlier read kept =>
    let r : Reader := {
      stream := { taskId := id, seen := some n, ended := u.state.isTerminal }
      items := earlier ++ [u]
      read := n + 1 }
    have idle : r.Follows (before ++ [f.latest]) := .reading id n u earlier read kept
    cases ended : u.state.isTerminal with
    | true => simpa [r, Reader.poll, UpdateStream.next, ended] using idle
    | false =>
      by_cases caughtUp : n = before.length
      · have same := read
        rw [caughtUp, List.getElem?_concat_length] at same
        have live := carries.live (Option.some.inj same ▸ ended)
        simpa [r, Reader.poll, UpdateStream.next, found, ended, ← count, caughtUp, live] using idle
      · have within := (List.getElem?_eq_some_iff.mp read).1
        rw [List.length_append, List.length_singleton] at within
        have behind : n + 1 ≤ before.length := by omega
        rw [List.take_append_of_le_length behind] at kept
        have polled : r.poll t (before ++ [f.latest]).length = {
            stream :=
              { taskId := id, seen := some before.length, ended := f.latest.state.isTerminal }
            items := (earlier ++ [u]) ++ [f.latest]
            read := before.length + 1 } := by
          simp [r, Reader.poll, UpdateStream.next, found, ended, ← count, caughtUp]
        rw [← ended, polled]
        apply Follows.reading id _ _ _ last
        rw [whole]
        exact (kept.trans (List.take_sublist _ _)).append (List.Sublist.refl _)

end Reader

/-- A tracker with the updates that were published, and the readers of their streams. -/
structure Audience where
  tracker : Tracker
  log : List JobUpdate := []
  readers : List Reader := []

inductive AudienceEvent where
  | operate (o : Tracker.Operation)
  | subscribe (id : Uuid)
  | poll (reader : Nat)

def AudienceEvent.operation? : AudienceEvent → Option Tracker.Operation
  | operate o => some o
  | _ => none

namespace Audience

def operations (events : List AudienceEvent) : List Tracker.Operation :=
  events.filterMap (·.operation?)

def published (s : Audience) (id : Uuid) : List JobUpdate := JobUpdate.about s.log id

def operate (s : Audience) (o : Tracker.Operation) : Audience :=
  { s with tracker := (s.tracker.perform o).2, log := s.log ++ (s.tracker.news? o).toList }

def subscribe (s : Audience) (id : Uuid) : Audience :=
  match UpdateStream.subscribe s.tracker id with
  | .ok stream => { s with readers := s.readers ++ [{ stream := stream }] }
  | .error _ => s

def poll (s : Audience) (i : Nat) (r : Reader) : Audience :=
  let polled := r.poll s.tracker (s.published r.stream.taskId).length
  { s with readers := s.readers.set i polled }

def step (s : Audience) : AudienceEvent → Audience
  | .operate o => s.operate o
  | .subscribe id => s.subscribe id
  | .poll i => (s.readers[i]?).elim s (s.poll i)

def run (s : Audience) (events : List AudienceEvent) : Audience := events.foldl step s

def initial (historyLimit : Nat) : Audience := { tracker := .empty historyLimit }

/-- What holds of streams in every state. -/
structure Sound (s : Audience) : Prop where
  records : s.tracker.Records
  broadcasts : s.tracker.Broadcasts s.log
  known : ∀ r ∈ s.readers, s.tracker.lastState r.stream.taskId ≠ none
  follows : ∀ r ∈ s.readers, r.Follows (s.published r.stream.taskId)

variable {s : Audience}

theorem sound_initial (historyLimit : Nat) : (initial historyLimit).Sound where
  records := (Tracker.sound_empty historyLimit).toRecords
  broadcasts := Tracker.broadcasts_empty historyLimit
  known := nofun
  follows := nofun

theorem Sound.exists_feed (h : s.Sound) {r : Reader} (there : r ∈ s.readers) :
    ∃ f, s.tracker.feeds.find? r.stream.taskId = some f ∧
      f.Carries (s.published r.stream.taskId) := by
  cases found : s.tracker.feeds.find? r.stream.taskId with
  | none => exact absurd (Tracker.lastState_eq_none.mpr found) (h.known r there)
  | some f => exact ⟨f, rfl, h.broadcasts.carries found⟩

theorem Sound.operate (h : s.Sound) (o : Tracker.Operation)
    (fresh : ∀ id, o.enqueued? = some id → s.tracker.feeds.find? id = none) :
    (s.operate o).Sound := by
  obtain ⟨written, change, -⟩ := Tracker.perform_change h.records.ownIds o fresh
  constructor
  · exact change.records h.records
  · exact h.broadcasts.perform h.records o fresh
  · intro r there
    obtain ⟨state, shown⟩ := Option.ne_none_iff_exists'.mp (h.known r there)
    obtain ⟨state', shown', -⟩ := change.lastState h.records shown
    exact Option.ne_none_iff_exists'.mpr ⟨state', shown'⟩
  · intro r there
    show r.Follows (JobUpdate.about (s.log ++ _) _)
    rw [JobUpdate.about, List.filter_append]
    exact (h.follows r there).append _

theorem Sound.subscribe (h : s.Sound) (id : Uuid) : (s.subscribe id).Sound := by
  unfold Audience.subscribe UpdateStream.subscribe
  cases stored : s.tracker.jobs.find? id with
  | none => exact h
  | some j =>
    refine { h with known := fun r there => ?_, follows := fun r there => ?_ }
    · rcases List.mem_append.mp there with before | last
      · exact h.known r before
      · obtain rfl := List.mem_singleton.mp last
        simp [h.records.published stored]
    · rcases List.mem_append.mp there with before | last
      · exact h.follows r before
      · obtain rfl := List.mem_singleton.mp last
        exact .opened id

theorem poll_taskId (r : Reader) (t : Tracker) (n : Nat) :
    (r.poll t n).stream.taskId = r.stream.taskId := by
  unfold Reader.poll UpdateStream.next
  by_cases ended : r.stream.ended = true
  · simp [ended]
  · simp only [ended]
    cases t.feeds.find? r.stream.taskId with
    | none => rfl
    | some f =>
      by_cases caughtUp : r.stream.seen = some f.revision
      · cases live : f.live <;> simp [caughtUp, live]
      · simp [caughtUp]

theorem Sound.poll (h : s.Sound) {i : Nat} {r : Reader} (here : s.readers[i]? = some r) :
    (s.poll i r).Sound := by
  have there := List.mem_of_getElem? here
  obtain ⟨f, found, carries⟩ := h.exists_feed there
  have polled := (h.follows r there).poll found carries
  refine { h with known := fun q there' => ?_, follows := fun q there' => ?_ }
  · rcases List.mem_or_eq_of_mem_set there' with other | rfl
    · exact h.known q other
    · rw [poll_taskId]
      exact h.known r there
  · rcases List.mem_or_eq_of_mem_set there' with other | rfl
    · exact h.follows q other
    · rw [poll_taskId]
      exact polled

theorem Sound.run (h : s.Sound) {events : List AudienceEvent}
    (fresh : s.tracker.Fresh (operations events)) : (s.run events).Sound := by
  induction events generalizing s with
  | nil => exact h
  | cons event rest ih =>
    cases event with
    | operate o =>
      obtain ⟨-, later⟩ := fresh.step h.records
      have unused (id : Uuid) (submitted : o.enqueued? = some id) :
          s.tracker.feeds.find? id = none := by
        apply Tracker.lastState_eq_none.mp
        apply fresh.unknown
        simp [operations, AudienceEvent.operation?, submitted]
      exact ih (h.operate o unused) later
    | subscribe id =>
      have same : (s.subscribe id).tracker = s.tracker := by
        unfold Audience.subscribe
        split <;> rfl
      apply ih (h.subscribe id)
      rw [same]
      exact fresh
    | poll i =>
      show ((s.step (.poll i)).run rest).Sound
      cases here : s.readers[i]? with
      | none => simpa [step, here] using ih h fresh
      | some r => simpa [step, here] using ih (h.poll here) fresh

/-- The latest update of a job whose record is gone reports its end. -/
theorem Sound.ended_of_gone (h : s.Sound) {id : Uuid} {f : Feed}
    (found : s.tracker.feeds.find? id = some f) (gone : s.tracker.jobs.find? id = none) :
    f.latest.state.isTerminal = true := by
  apply eq_true_of_ne_false
  intro goesOn
  have shown : s.tracker.lastState id = some f.latest.state := by simp [Tracker.lastState, found]
  obtain ⟨j, stored⟩ := h.records.live shown goesOn
  rw [gone] at stored
  cases stored

/-- After any operations, each task being submitted once, and any polls of any streams: the latest
update shows the record as it is, or the end of the job if its record is gone.  A stream that has
yielded nothing yields that update.  Later it yields the latest update just when some were published
since its last item, and otherwise waits.  Its items are published updates, in their order, and their
states only move on; one that reports an end is the last, and the stream is over.  And if the job has
ended and the stream has not yielded the end, it does so at the next poll. -/
theorem streams_follow (historyLimit : Nat) (events : List AudienceEvent)
    (once : Tracker.Once (operations events)) :
    let s := (initial historyLimit).run events
    ∀ r ∈ s.readers,
      let us := s.published r.stream.taskId
      let item := (r.stream.next s.tracker).1
      ∃ latest, us.getLast? = some latest ∧
        (∀ j, s.tracker.jobs.find? r.stream.taskId = some j → latest = .ofJob j latest.at') ∧
        (s.tracker.jobs.find? r.stream.taskId = none → latest.state.isTerminal = true) ∧
        (r.items = [] → item = .update latest) ∧
        (∀ last, r.items.getLast? = some last → last.state.isTerminal = false →
          item = if r.read < us.length then .update latest else .pending) ∧
        r.items.Sublist us ∧ r.items.Pairwise JobUpdate.Precedes ∧
        (∀ before u after, r.items = before ++ u :: after → u.state.isTerminal = true →
          after = [] ∧ item = .finished) ∧
        (latest.state.isTerminal = true → (∀ i ∈ r.items, i.state.isTerminal = false) →
          item = .update latest) := by
  intro s r there us item
  have sound : s.Sound := (sound_initial historyLimit).run (Tracker.fresh_empty once historyLimit)
  obtain ⟨f, found, carries⟩ := sound.exists_feed there
  have follows := sound.follows r there
  have sublist : r.items.Sublist us := follows.sublist
  have ordered : r.items.Pairwise JobUpdate.Precedes := carries.ordered.sublist sublist
  have latest : us.getLast? = some f.latest := by
    obtain ⟨earlier, heard, -⟩ := carries.heard
    simp [us, heard]
  have next := follows.next found carries
  refine ⟨f.latest, latest, fun j stored => sound.broadcasts.current stored found,
    sound.ended_of_gone found, ?_, ?_, sublist, ordered, ?_, ?_⟩
  · intro unread
    rcases next with ⟨-, yields⟩ | ⟨u, last, -⟩ | ⟨u, last, -⟩
    · exact yields
    · rw [unread] at last
      cases last
    · rw [unread] at last
      cases last
  · intro last isLast goesOn
    rcases next with ⟨unread, -⟩ | ⟨u, isLast', ended, -⟩ | ⟨u, -, -, yields⟩
    · rw [unread] at isLast
      cases isLast
    · rw [isLast] at isLast'
      cases isLast'
      rw [goesOn] at ended
      cases ended
    · exact yields
  · intro before u after split ended
    have nothingAfter : after = [] := by
      rw [split] at ordered
      exact JobUpdate.nothing_after_end ordered ended
    refine ⟨nothingAfter, ?_⟩
    have isLast : r.items.getLast? = some u := by simp [split, nothingAfter]
    rcases next with ⟨unread, -⟩ | ⟨v, -, -, finished⟩ | ⟨v, isLast', goesOn, -⟩
    · rw [unread] at isLast
      cases isLast
    · exact finished
    · rw [isLast] at isLast'
      cases isLast'
      rw [goesOn] at ended
      cases ended
  · intro ended unheard
    rcases next with ⟨-, yields⟩ | ⟨v, isLast, ended', -⟩ | ⟨v, isLast, goesOn, yields⟩
    · exact yields
    · rw [unheard v (List.mem_of_getLast? isLast)] at ended'
      cases ended'
    · have overtaken : v ≠ f.latest := by
        rintro rfl
        rw [ended] at goesOn
        cases goesOn
      exact yields.trans (if_pos (follows.behind isLast latest overtaken))

/-- A job is followed from the queue to its end, and one of its reports is overtaken.  No record that
has ended is kept. -/
def followedToTheEnd : List AudienceEvent :=
  [.operate (.enqueue (Tracker.idleTask 1) default), .subscribe ⟨1⟩, .poll 0,
    .operate (.start ⟨1⟩ "worker-0" default), .operate (.report ⟨1⟩ (.percent 10) default),
    .operate (.report ⟨1⟩ (.percent 20) default), .poll 0,
    .operate (.finish ⟨1⟩ .succeeded none none default)]

theorem streams_follow_toTheEnd :
    let s := (initial 0).run followedToTheEnd
    Tracker.Once (operations followedToTheEnd) ∧ s.tracker.jobs.find? ⟨1⟩ = none ∧
      ∃ r ∈ s.readers, r.stream.taskId = ⟨1⟩ ∧
        r.items.map (·.state) = [.queued, .running] ∧
        r.items.map (·.progress.map (·.percent)) = [none, some 20] ∧
        ∃ u, (r.stream.next s.tracker).1 = .update u ∧ u.state.isTerminal = true := by
  intro s
  have once : Tracker.Once (operations followedToTheEnd) := by decide +kernel
  have dropped : s.tracker.jobs.find? ⟨1⟩ = none := by decide +kernel
  have here : s.readers[0]?.isSome := by decide +kernel
  obtain ⟨r, there⟩ := Option.isSome_iff_exists.mp here
  have facts : s.readers[0]?.map (fun r => (r.stream.taskId, r.items.map (·.state),
      r.items.map (·.progress.map (·.percent)))) =
      some (⟨1⟩, [.queued, .running], [none, some 20]) := by decide +kernel
  rw [there] at facts
  simp only [Option.map_some, Option.some.injEq, Prod.mk.injEq] at facts
  obtain ⟨own, states, percents⟩ := facts
  obtain ⟨u, -, -, ends, -, -, -, -, -, atEnd⟩ :=
    streams_follow 0 followedToTheEnd once r (List.mem_of_getElem? there)
  have ended : u.state.isTerminal = true := ends (own.symm ▸ dropped)
  refine ⟨once, dropped, r, List.mem_of_getElem? there, own, states, percents, u, ?_, ended⟩
  apply atEnd ended
  intro i received
  have state : i.state ∈ [JobState.queued, .running] := states ▸ List.mem_map_of_mem received
  rcases List.mem_cons.mp state with queued | later
  · rw [queued]
    rfl
  · rw [List.mem_singleton.mp later]
    rfl

end Audience

end DeviceWatch
