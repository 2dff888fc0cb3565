import Gatehouse.Proofs.Proxy.Reference
import Gatehouse.Proxy.Router

/-!
# The limit on bodies

The limit counts bytes, and how they are cut into frames makes no difference: neither to whether a body
fits, nor to what is read, nor to which of the two refusals there is. So it makes none to what the
gateway sends, answers and counts. Frames may pass through any limiter on their way that knows how many
bytes are left and stops the first frame that has more.
-/

namespace Gatehouse.Proxy

/-- A body that is too large is refused whatever comes behind. -/
theorem Body.read_append_of_lt {limit : Nat} {frames : List Bytes}
    (hsize : limit < frames.flatten.length) (more : List Bytes) (broken : Bool) :
    Body.read limit ⟨frames ++ more, broken⟩ = .error .payloadTooLarge := by
  refine Body.read_of_lt ?_
  rw [List.flatten_append, List.length_append]
  omega

/-- Of frames with more bytes than the limit, one is the first that does not fit into what is left. -/
theorem exists_exceeding {limit : Nat} {frames : List Bytes} (hsize : limit < frames.flatten.length) :
    ∃ before frame behind, frames = before ++ frame :: behind ∧ before.flatten.length ≤ limit ∧
      limit - before.flatten.length < frame.length := by
  induction frames generalizing limit with
  | nil => cases hsize
  | cons first frames ih =>
      rw [List.flatten_cons, List.length_append] at hsize
      by_cases hfits : first.length ≤ limit
      · have hrest : limit - first.length < frames.flatten.length := by omega
        obtain ⟨before, frame, behind, rfl, hbefore, hframe⟩ := ih hrest
        refine ⟨first :: before, frame, behind, rfl, ?_, ?_⟩
        · rw [List.flatten_cons, List.length_append]
          omega
        · rw [List.flatten_cons, List.length_append]
          omega
      · exact ⟨[], first, frames, rfl, Nat.zero_le _, by simpa using hfits⟩

/-- A body is refused as too large at the first frame for which the limit has too little left. -/
theorem Body.read_eq_tooLarge_iff {limit : Nat} {frames : List Bytes} {broken : Bool} :
    Body.read limit ⟨frames, broken⟩ = .error .payloadTooLarge ↔
      ∃ before frame behind, frames = before ++ frame :: behind ∧ before.flatten.length ≤ limit ∧
        limit - before.flatten.length < frame.length := by
  constructor
  · intro hrefused
    have hsize : limit < frames.flatten.length := by
      refine Nat.lt_of_not_le fun hfits => ?_
      rw [Body.read_of_le hfits] at hrefused
      cases broken with
      | false => cases hrefused
      | true => cases hrefused
    exact exists_exceeding hsize
  · rintro ⟨before, frame, behind, rfl, hbefore, hframe⟩
    have hsize : limit < (before ++ [frame]).flatten.length := by
      rw [List.flatten_append, List.flatten_singleton, List.length_append]
      omega
    rw [List.append_cons]
    exact Body.read_append_of_lt hsize behind broken

/-- The same bytes in other frames are read alike. -/
theorem Body.read_recut {frames recut : List Bytes} (hsame : recut.flatten = frames.flatten)
    (limit : Nat) (broken : Bool) :
    Body.read limit ⟨recut, broken⟩ = Body.read limit ⟨frames, broken⟩ := by
  simp only [Body.read, Body.readFrames_eq, hsame]

/-! ## Limiters -/

/-- What lets the frames of a body pass one by one, or stops at one of them. -/
structure Limiter where
  State : Type
  start : Nat → State
  /-- The state behind a frame that passes. -/
  next : State → Bytes → Option State

namespace Limiter

variable {limiter : Limiter} {left : limiter.State → Nat}

/-- A limiter starts with all of its limit left. It lets frames pass that have no more bytes than are
left, which leaves so many less, and stops at others. -/
structure IsBudgeted (limiter : Limiter) (left : limiter.State → Nat) : Prop where
  start : ∀ limit, left (limiter.start limit) = limit
  passes : ∀ state frame, frame.length ≤ left state →
    ∃ after, limiter.next state frame = some after ∧ left after = left state - frame.length
  stops : ∀ state frame, left state < frame.length → limiter.next state frame = none

/-- Gather the frames that a limiter lets pass, up to the end of the stream. -/
def collect (limiter : Limiter) (broken : Bool) (state : limiter.State) (gathered : Bytes) :
    List Bytes → Except Rejection Bytes
  | [] => if broken then .error .invalidBody else .ok gathered
  | frame :: frames =>
    match limiter.next state frame with
    | none => .error .payloadTooLarge
    | some after => collect limiter broken after (gathered ++ frame) frames

/-- Frames behind those that are gathered are read into the bytes that are left. -/
theorem IsBudgeted.collect_eq (hbudgeted : limiter.IsBudgeted left) (broken : Bool)
    (state : limiter.State) (gathered : Bytes) (frames : List Bytes) :
    limiter.collect broken state gathered frames =
      (Body.readFrames broken (left state) frames).map fun bytes => gathered ++ bytes := by
  induction frames generalizing state gathered with
  | nil =>
      cases broken with
      | true => rfl
      | false => exact congrArg Except.ok (List.append_nil gathered).symm
  | cons frame frames ih =>
      rw [collect, Body.readFrames]
      by_cases hfits : frame.length ≤ left state
      · obtain ⟨after, hnext, hleft⟩ := hbudgeted.passes state frame hfits
        rw [hnext, if_pos hfits, ← hleft]
        refine (ih after (gathered ++ frame)).trans ?_
        cases Body.readFrames broken (left after) frames with
        | error rejection => rfl
        | ok bytes => exact congrArg Except.ok (List.append_assoc gathered frame bytes)
      · rw [hbudgeted.stops state frame (Nat.lt_of_not_le hfits), if_neg hfits]
        rfl

theorem IsBudgeted.collect_start (hbudgeted : limiter.IsBudgeted left) (limit : Nat)
    (frames : List Bytes) (broken : Bool) :
    limiter.collect broken (limiter.start limit) [] frames = Body.read limit ⟨frames, broken⟩ := by
  rw [hbudgeted.collect_eq, hbudgeted.start, Body.read]
  cases Body.readFrames broken limit frames with
  | error rejection => rfl
  | ok bytes => rfl

/-- The limiter that counts the bytes that are left. -/
def counting : Limiter where
  State := Nat
  start limit := limit
  next left frame := if frame.length ≤ left then some (left - frame.length) else none

theorem isBudgeted_counting : counting.IsBudgeted id where
  start _ := rfl
  passes _ _ hfits := ⟨_, if_pos hfits, rfl⟩
  stops _ _ hmore := if_neg (Nat.not_le.2 hmore)

end Limiter

/-- A body of at most as many bytes as the limit is read as a whole if it ends, and refused as broken if
its stream breaks off. One byte more and it is too large, whether or not it would have gone on or broken
off. All this is the same for every way to cut the bytes into frames, and for every limiter that the
frames pass through. -/
theorem Body.read_exact (limit : Nat) (frames : List Bytes) :
    (frames.flatten.length ≤ limit →
      Body.read limit ⟨frames, false⟩ = .ok frames.flatten ∧
        Body.read limit ⟨frames, true⟩ = .error .invalidBody) ∧
    (limit < frames.flatten.length →
      ∀ more broken, Body.read limit ⟨frames ++ more, broken⟩ = .error .payloadTooLarge) ∧
    (∀ recut broken, recut.flatten = frames.flatten →
      Body.read limit ⟨recut, broken⟩ = Body.read limit ⟨frames, broken⟩) ∧
    ∀ (limiter : Limiter) (left : limiter.State → Nat), limiter.IsBudgeted left → ∀ broken,
      limiter.collect broken (limiter.start limit) [] frames = Body.read limit ⟨frames, broken⟩ := by
  refine ⟨fun hfits => ?_, Body.read_append_of_lt,
    fun recut broken hsame => Body.read_recut hsame limit broken,
    fun limiter left hbudgeted => hbudgeted.collect_start limit frames⟩
  constructor
  · exact Body.read_of_le hfits
  · exact Body.read_of_le hfits

/-- Empty frames and small ones use up a limit of three bytes, and one more byte is too much. -/
theorem Body.read_exact_counting :
    let frames : List Bytes := [[1], [], [2, 3], []]
    let collect := Limiter.counting.collect false (Limiter.counting.start 3) []
    collect frames = .ok [1, 2, 3] ∧ collect (frames ++ [[4], []]) = .error .payloadTooLarge := by
  intro frames collect
  have hcollect (frames : List Bytes) : collect frames = Body.read 3 ⟨frames, false⟩ :=
    (Body.read_exact 3 frames).2.2.2 Limiter.counting id Limiter.isBudgeted_counting false
  have hlarge : 3 < (frames ++ [[4]]).flatten.length := by decide
  constructor
  · rw [hcollect]
    exact ((Body.read_exact 3 frames).1 (by decide)).1
  · rw [hcollect]
    exact (Body.read_exact 3 (frames ++ [[4]])).2.1 hlarge [[]] false

/-! ## Requests in other frames -/

namespace Gateway

variable (gateway : Gateway) (network : Network) (request : Request) {recut : List Bytes}

theorem forward_recut (hsame : recut.flatten = request.body.frames.flatten) :
    gateway.forward network { request with body := ⟨recut, request.body.broken⟩ } =
      gateway.forward network request := by
  simp only [forward, callOf, Body.read_recut hsame]
  rfl

/-- What the gateway sends, answers and counts does not depend on the frames of a request. -/
theorem answer_recut (hsame : recut.flatten = request.body.frames.flatten)
    (newId : Http.FieldValue) (ledger : Metrics.Ledger) :
    gateway.answer network newId ledger { request with body := ⟨recut, request.body.broken⟩ } =
      gateway.answer network newId ledger request := by
  have hforward := gateway.forward_recut network (identified newId request) hsame
  simp only [answer, dispatch, handleHealth, handle, identified] at hforward ⊢
  rw [hforward]
  rfl

end Gateway

end Gatehouse.Proxy
