import Mathlib.Algebra.Ring.Int.Defs
import Mathlib.Data.List.InsertIdx
import DeviceWatch.Proofs.Lists
import DeviceWatch.Proofs.Pool.Metered

/-!
# The books of a pool

Accepted tasks wait or were taken, those that run were taken, and the meters count both.  The books
change by four entries, one for each way in which the queue or the crew of a pool changes.
-/

namespace DeviceWatch

theorem sum_countP_range {α : Type} (l : List α) (worker : α → Nat) (n : Nat) :
    ((List.range n).map fun w => (l.countP (worker · == w) : Int)).sum =
      l.countP (worker · < n) := by
  induction n with
  | zero => simp
  | succ n ih =>
    have next : l.countP (worker · < n + 1) =
        l.countP (worker · < n) + l.countP (worker · == n) := by
      clear ih
      induction l with
      | nil => rfl
      | cons a rest ih =>
        simp only [List.countP_cons, ih, decide_eq_true_eq, beq_iff_eq]
        split <;> split <;> split <;> omega
    rw [List.range_succ, List.map_append, List.sum_append, ih, next]
    simp

theorem sum_range_le {f : Nat → Int} {c : Nat} (atMost : ∀ w, f w ≤ c) (n : Nat) :
    ((List.range n).map f).sum ≤ n * c := by
  induction n with
  | zero => simp
  | succ n ih =>
    have last := atMost n
    have product : ((n + 1 : Nat) : Int) * c = n * c + c := by
      rw [Int.natCast_add, Int.add_mul]
      simp
    rw [List.range_succ, List.map_append, List.sum_append, product]
    simp
    omega

/-- Accepted tasks wait or were taken, those that run were taken, and the meters count both. -/
structure Books (workers : WorkerConfig) (accepted taken waiting : List Uuid)
    (crew : List (Uuid × Nat)) (m : Meters) : Prop where
  distinct : accepted.Nodup
  handled : accepted.Perm (taken ++ waiting)
  begun : ∀ e ∈ crew, e.1 ∈ taken
  places : (crew.map Prod.fst).Nodup
  staffed : ∀ e ∈ crew, e.2 < workers.workerCount
  queued : m.queued = waiting.length
  active : m.active = crew.length
  running : ∀ w, m.running w = crew.countP (·.2 == w)
  permits : ∀ w, m.permits w + m.running w = workers.workerConcurrency
  spare : ∀ w, 0 ≤ m.permits w
  tokens : m.tokens.Perm (crew.map Prod.fst ++ waiting)
  bounded : waiting.length ≤ workers.queueBound

namespace Books

variable {workers : WorkerConfig} {accepted taken waiting : List Uuid} {crew : List (Uuid × Nat)}
  {m : Meters} {id : Uuid} {i w : Nat}

theorem initial (workers : WorkerConfig) :
    Books workers [] [] [] [] { permits := fun _ => workers.workerConcurrency } := by
  constructor <;> simp

theorem accept (h : Books workers accepted taken waiting crew m) (unused : id ∉ accepted)
    (room : waiting.length < workers.queueBound) :
    Books workers (id :: accepted) taken (waiting ++ [id]) crew (m.accept id) where
  distinct := List.nodup_cons.mpr ⟨unused, h.distinct⟩
  handled := by
    apply (h.handled.cons id).trans
    rw [← List.append_assoc]
    exact (List.perm_append_singleton id _).symm
  begun := h.begun
  places := h.places
  staffed := h.staffed
  queued := by simp [Meters.accept, h.queued]
  active := h.active
  running := h.running
  permits := h.permits
  spare := h.spare
  tokens := by
    rw [← List.append_assoc]
    exact h.tokens.append_right [id]
  bounded := by
    rw [List.length_append, List.length_singleton]
    omega

theorem not_mem_taken (h : Books workers accepted taken waiting crew m)
    (here : waiting[i]? = some id) : id ∉ taken := by
  have distinct := h.handled.nodup_iff.mp h.distinct
  intro before
  exact (List.nodup_append.mp distinct).2.2 id before id (List.mem_of_getElem? here) rfl

theorem handled_take (h : Books workers accepted taken waiting crew m)
    (here : waiting[i]? = some id) : accepted.Perm (id :: taken ++ waiting.eraseIdx i) :=
  h.handled.trans (perm_cons_eraseIdx here taken)

theorem pass (h : Books workers accepted taken waiting crew m) (here : waiting[i]? = some id) :
    Books workers accepted (id :: taken) (waiting.eraseIdx i) crew (m.pass id) where
  distinct := h.distinct
  handled := h.handled_take here
  begun := fun e there => List.mem_cons_of_mem id (h.begun e there)
  places := h.places
  staffed := h.staffed
  queued := by
    have one := length_eraseIdx_add_one here
    have before := h.queued
    show m.queued - 1 = _
    omega
  active := h.active
  running := h.running
  permits := h.permits
  spare := h.spare
  tokens := by
    have left := (h.tokens.trans (perm_cons_eraseIdx here _)).erase id
    rwa [List.erase_cons_head] at left
  bounded := by
    have one := length_eraseIdx_add_one here
    have before := h.bounded
    omega

theorem begin (h : Books workers accepted taken waiting crew m) (here : waiting[i]? = some id)
    (known : w < workers.workerCount) (room : 0 < m.permits w) :
    Books workers accepted (id :: taken) (waiting.eraseIdx i) (crew ++ [(id, w)]) (m.begin w) where
  distinct := h.distinct
  handled := h.handled_take here
  begun := by
    intro e there
    rcases List.mem_append.mp there with before | last
    · exact List.mem_cons_of_mem id (h.begun e before)
    · rw [List.mem_singleton.mp last]
      exact List.mem_cons_self
  places := by
    rw [List.map_append, List.nodup_append]
    refine ⟨h.places, by simp, ?_⟩
    intro x there y last same
    obtain ⟨e, before, rfl⟩ := List.mem_map.mp there
    obtain rfl := List.mem_singleton.mp last
    exact h.not_mem_taken here (same ▸ h.begun e before)
  staffed := by
    intro e there
    rcases List.mem_append.mp there with before | last
    · exact h.staffed e before
    · rw [List.mem_singleton.mp last]
      exact known
  queued := by
    have one := length_eraseIdx_add_one here
    have before := h.queued
    show m.queued - 1 = _
    omega
  active := by simp [Meters.begin, h.active]
  running := by
    intro v
    have before := h.running v
    simp only [Meters.begin, Meters.bump, List.countP_append, List.countP_singleton]
    by_cases same : v = w
    · simp [same] at before ⊢
      omega
    · simp [same, Ne.symm same, before]
  permits := by
    intro v
    have before := h.permits v
    simp only [Meters.begin, Meters.bump]
    split <;> omega
  spare := by
    intro v
    have before := h.spare v
    simp only [Meters.begin, Meters.bump]
    split
    · rename_i same
      rw [same]
      omega
    · exact before
  tokens := by
    have taken := h.tokens.trans (perm_cons_eraseIdx here _)
    apply taken.trans
    rw [List.map_append, List.append_assoc]
    exact List.perm_middle.symm
  bounded := by
    have one := length_eraseIdx_add_one here
    have before := h.bounded
    omega

theorem leave (h : Books workers accepted taken waiting crew m) (here : crew[i]? = some (id, w)) :
    Books workers accepted taken waiting (crew.eraseIdx i) (m.leave id w) where
  distinct := h.distinct
  handled := h.handled
  begun := fun e there => h.begun e (List.mem_of_mem_eraseIdx there)
  places := h.places.sublist ((List.eraseIdx_sublist crew i).map _)
  staffed := fun e there => h.staffed e (List.mem_of_mem_eraseIdx there)
  queued := h.queued
  active := by
    have one := length_eraseIdx_add_one here
    have before := h.active
    show m.active - 1 = _
    omega
  running := by
    intro v
    have before := h.running v
    have one := countP_eraseIdx_add here (·.2 == v)
    simp only [Meters.leave, Meters.bump]
    by_cases same : v = w
    · simp [same] at before one ⊢
      omega
    · simp [same, Ne.symm same] at before one ⊢
      omega
  permits := by
    intro v
    have before := h.permits v
    simp only [Meters.leave, Meters.bump]
    split <;> omega
  spare := by
    intro v
    have before := h.spare v
    simp only [Meters.leave, Meters.bump]
    split <;> omega
  tokens := by
    have mapped : (crew.map Prod.fst)[i]? = some id := by simp [here]
    have left := ((h.tokens.trans List.perm_append_comm).trans (perm_cons_eraseIdx mapped _)).erase id
    rw [List.erase_cons_head] at left
    rw [← List.eraseIdx_map]
    exact left.trans List.perm_append_comm
  bounded := h.bounded

theorem length_untaken (h : Books workers accepted taken waiting crew m) :
    (accepted.filter fun id => !taken.contains id).length = waiting.length := by
  have apart := (List.nodup_append.mp (h.handled.nodup_iff.mp h.distinct)).2.2
  have noneTaken : taken.filter (fun id => !taken.contains id) = [] := by
    apply List.filter_eq_nil_iff.mpr
    intro id there
    simp [there]
  have allWaiting : waiting.filter (fun id => !taken.contains id) = waiting := by
    apply List.filter_eq_self.mpr
    intro id there
    have untaken : id ∉ taken := fun before => apart id before id there rfl
    simp [untaken]
  rw [(h.handled.filter _).length_eq, List.filter_append, noneTaken, allWaiting]
  rfl

theorem active_eq_sum (h : Books workers accepted taken waiting crew m) :
    m.active = ((List.range workers.workerCount).map m.running).sum := by
  have known : crew.countP (·.2 < workers.workerCount) = crew.length := by
    apply List.countP_eq_length.mpr
    intro e there
    exact decide_eq_true (h.staffed e there)
  rw [funext h.running, sum_countP_range, known]
  exact h.active

theorem running_le (h : Books workers accepted taken waiting crew m) (w : Nat) :
    m.running w ≤ workers.workerConcurrency := by
  have permits := h.permits w
  have spare := h.spare w
  omega

end Books

end DeviceWatch
