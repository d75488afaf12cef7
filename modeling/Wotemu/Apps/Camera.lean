import Mathlib.Algebra.BigOperators.Fin
import Mathlib.Algebra.Order.Field.Rat
import Mathlib.Tactic.FieldSimp
import Mathlib.Tactic.Ring
import Wotemu.Foundation.Transition

/-! The frames that the mock camera emits.

A video is played in a loop. A frame is emitted when the last frames, up to it,
change more than a threshold on average. Grey levels are bytes, and so are their
differences: a pixel that darkens by one has the difference 255.
-/

set_option autoImplicit false

namespace Wotemu

open Wotemu.Foundation

namespace Camera

/-- A frame in grey, as `cv2.cvtColor` gives it. -/
abbrev Image (pixels : Nat) := Fin pixels → BitVec 8

variable {pixels : Nat}

/-- What `cv2.VideoCapture` has: the frames that can be read, and `CAP_PROP_FRAME_COUNT`. -/
structure Video (pixels : Nat) where
  frames : List (Image pixels)
  frameCount : Nat

/-- The position of the capture, and the variable `frame_counter`. -/
structure Capture where
  position : Nat
  frameCounter : Nat
  deriving DecidableEq

/-- One turn of `_frames_generator`; there is none when a frame cannot be read. -/
def Video.read (video : Video pixels) (capture : Capture) : Option (Image pixels × Capture) :=
  video.frames[capture.position]?.map fun frame =>
    (frame, if capture.frameCounter + 1 = video.frameCount then ⟨0, 0⟩
      else ⟨capture.position + 1, capture.frameCounter + 1⟩)

/-- `np.diff` of two rows of bytes. -/
def diff (before after : Image pixels) : Image pixels := fun i => after i - before i

/-- `np.mean` -/
def mean (image : Image pixels) : Rat := (∑ i, ((image i).toNat : Rat)) / pixels

/-- `_get_motion_score`; the mean of no differences is no number. -/
def getMotionScore (frames : List (Image pixels)) : Option Rat :=
  let means := (List.zipWith diff frames frames.tail).map fun item => |mean item|
  if means = [] then none else some (means.sum / means.length)

def targetFps : Nat := 12

def motionThreshold : Rat := 25

/-- `append` on a deque with a maximal length. -/
def push {α : Type} (maxlen : Nat) (deque : List α) (item : α) : List α :=
  (deque ++ [item]).drop ((deque ++ [item]).length - maxlen)

def motion (frames : List (Image pixels)) : Bool :=
  match getMotionScore frames with
  | some score => motionThreshold < score
  | none => false

structure State (pixels : Nat) where
  capture : Capture
  framesBuf : List (Image pixels)
  emitted : List Bool

def initial : State pixels := ⟨⟨0, 0⟩, [], []⟩

/-- `_video_frame_emitter` for one frame of `_video_motion_generator`. -/
def Video.step (video : Video pixels) : Transition (State pixels) Unit := fun state _ =>
  (video.read state.capture).map fun (frame, capture) =>
    let framesBuf := push targetFps state.framesBuf frame
    ⟨capture, framesBuf, state.emitted ++ [motion framesBuf]⟩

def Video.play (video : Video pixels) (count : Nat) : Option (State pixels) :=
  Transition.run video.step initial (List.replicate count ())

section Loop

variable {video : Video pixels}

/-- The frame count of the container is that of the stream. -/
structure Video.Loops (video : Video pixels) : Prop where
  counted : video.frameCount = video.frames.length
  nonempty : 0 < video.frames.length

def Video.frameAt (video : Video pixels) (i : Nat) : Image pixels :=
  (video.frames[i % video.frames.length]?).getD fun _ => 0

def Video.window (video : Video pixels) (count : Nat) : List (Image pixels) :=
  (List.range' (count - targetFps) (min count targetFps)).map video.frameAt

theorem push_window (video : Video pixels) (count : Nat) :
    push targetFps (video.window count) (video.frameAt count) = video.window (count + 1) := by
  have last : count = count - targetFps + min count targetFps := by omega
  have more : video.window count ++ [video.frameAt count] =
      (List.range' (count - targetFps) (min count targetFps + 1)).map video.frameAt := by
    rw [List.range'_1_concat, List.map_append, ← last]
    rfl
  unfold push
  rw [more, ← List.map_drop, List.drop_range', Video.window]
  simp only [List.length_map, List.length_range']
  congr 2 <;> omega

theorem Video.Loops.read (loops : video.Loops) (count : Nat) :
    video.read ⟨count % video.frames.length, count % video.frames.length⟩ =
      some (video.frameAt count, ⟨(count + 1) % video.frames.length, (count + 1) % video.frames.length⟩) := by
  have inside : count % video.frames.length < video.frames.length := Nat.mod_lt count loops.nonempty
  have found : video.frames[count % video.frames.length]? = some (video.frameAt count) := by
    rw [Video.frameAt, List.getElem?_eq_getElem inside]
    rfl
  unfold Video.read
  rw [found, loops.counted, Option.map_some]
  congr 2
  by_cases last : count % video.frames.length + 1 = video.frames.length
  · have next : (count + 1) % video.frames.length = 0 := by rw [← Nat.mod_add_mod, last, Nat.mod_self]
    rw [if_pos last, next]
  · have next : (count + 1) % video.frames.length = count % video.frames.length + 1 := by
      rw [← Nat.mod_add_mod]
      exact Nat.mod_eq_of_lt (by omega)
    rw [if_neg last, next]

theorem Video.Loops.play (loops : video.Loops) (count : Nat) : video.play count =
    some ⟨⟨count % video.frames.length, count % video.frames.length⟩, video.window count,
      (List.range count).map fun i => motion (video.window (i + 1))⟩ := by
  induction count with
  | zero =>
    simp [Video.play, initial, Video.window]
  | succ count ih =>
    unfold Video.play at ih ⊢
    rw [List.replicate_succ']
    -- the next frame pushes the oldest one out of the window
    refine Transition.run_concat.mpr ⟨_, ih, ?_⟩
    simp only [Video.step, loops.read, Option.map_some, push_window, List.range_succ, List.map_append, List.map_cons,
      List.map_nil]

theorem frameAt_add (video : Video pixels) (i : Nat) : video.frameAt (video.frames.length + i) = video.frameAt i := by
  rw [Video.frameAt, Nat.add_mod_left]
  rfl

theorem window_add (video : Video pixels) {count : Nat} (full : targetFps ≤ count) :
    video.window (video.frames.length + count) = video.window count := by
  have later : video.frames.length + count - targetFps = video.frames.length + (count - targetFps) := by omega
  have whole : min (video.frames.length + count) targetFps = min count targetFps := by omega
  unfold Video.window
  rw [later, whole, ← List.map_add_range', List.map_map]
  congr 1
  funext i
  exact frameAt_add video i

/-- The camera never runs out of frames: it reads those of the video in turn, judges each by the last
twelve, and after its first ones it emits the same frames in every turn of the video. -/
theorem emissions_repeat (loops : video.Loops) (count : Nat) : ∃ state, video.play count = some state ∧
    (video.read state.capture).map Prod.fst = some (video.frameAt count) ∧ state.framesBuf = video.window count ∧
    state.emitted.length = count ∧ (∀ i < count, state.emitted[i]? = some (motion (video.window (i + 1)))) ∧
    ∀ i, targetFps ≤ i + 1 → video.frames.length + i < count →
      state.emitted[video.frames.length + i]? = state.emitted[i]? := by
  have judged : ∀ i < count, ((List.range count).map fun i => motion (video.window (i + 1)))[i]? =
      some (motion (video.window (i + 1))) := by
    intro i within
    rw [List.getElem?_map, List.getElem?_range within, Option.map_some]
  refine ⟨_, loops.play count, ?_, rfl, by simp, judged, ?_⟩
  · rw [loops.read]
    rfl
  · intro i full within
    have before : i < count := by omega
    rw [judged _ within, judged i before, Nat.add_assoc, window_add video full]

end Loop

section Fades

/-- All pixels change by the same number of levels from each frame to the next, modulo 256. -/
def Fades (levels : BitVec 8) (frames : List (Image pixels)) : Prop :=
  frames.IsChain fun before after => diff before after = fun _ => levels

theorem mean_const (positive : 0 < pixels) (levels : BitVec 8) :
    mean (fun _ : Fin pixels => levels) = levels.toNat := by
  have nonzero : (pixels : Rat) ≠ 0 := Nat.cast_ne_zero.mpr positive.ne'
  unfold mean
  rw [Finset.sum_const, Finset.card_univ, Fintype.card_fin, nsmul_eq_mul]
  field_simp

theorem Fades.diffs {levels : BitVec 8} {frames : List (Image pixels)} (fades : Fades levels frames) :
    List.zipWith diff frames frames.tail = List.replicate (frames.length - 1) fun _ => levels := by
  induction frames with
  | nil => rfl
  | cons first rest ih =>
    -- a last frame has no difference after it
    cases rest with
    | nil => rfl
    | cons second rest =>
      obtain ⟨here, later⟩ := List.isChain_cons_cons.mp fades
      have rest := ih later
      simp only [List.tail_cons, List.length_cons, Nat.add_sub_cancel] at rest ⊢
      rw [List.zipWith_cons_cons, here, rest]
      rfl

theorem Fades.score (positive : 0 < pixels) {levels : BitVec 8} {frames : List (Image pixels)}
    (fades : Fades levels frames) (two : 2 ≤ frames.length) : getMotionScore frames = some (levels.toNat : Rat) := by
  have several : frames.length - 1 ≠ 0 := by omega
  have count : ((frames.length - 1 : Nat) : Rat) ≠ 0 := Nat.cast_ne_zero.mpr several
  unfold getMotionScore
  simp only [fades.diffs, List.map_replicate, mean_const positive, Nat.abs_cast, List.replicate_eq_nil_iff, several,
    if_false, List.sum_replicate, List.length_replicate, nsmul_eq_mul]
  rw [mul_div_cancel_left₀ _ count]

/-- A frame of a fade is emitted when the byte of the difference is above the threshold: a fade to
black by one level at a time is motion, a fade from black is none. -/
theorem fade_emitted {video : Video pixels} (loops : video.Loops) (positive : 0 < pixels) {levels : BitVec 8}
    {count i : Nat} (later : 0 < i) (within : i < count) (fades : Fades levels (video.window (i + 1))) :
    ∃ state, video.play count = some state ∧ state.emitted[i]? = some (decide (25 < levels.toNat)) := by
  refine ⟨_, loops.play count, ?_⟩
  have two : 2 ≤ (video.window (i + 1)).length := by
    simp only [Video.window, List.length_map, List.length_range', targetFps]
    omega
  simp only [List.getElem?_map, List.getElem?_range within, Option.map_some, motion, fades.score positive two,
    motionThreshold]
  have same : ((25 : Rat) < levels.toNat) = (25 < levels.toNat) := by
    rw [← Nat.cast_ofNat, Nat.cast_lt]
  simp only [same]

def turning : Video 1 := ⟨[fun _ => 0, fun _ => 64, fun _ => 128, fun _ => 192], 4⟩

theorem turning_loops : turning.Loops := ⟨rfl, by decide⟩

theorem turning_repeats : ∃ state, turning.play 20 = some state ∧
    (turning.read state.capture).map Prod.fst = some (fun _ => 0) ∧ state.emitted[4 + 11]? = state.emitted[11]? := by
  obtain ⟨state, played, next, -, -, -, repeats⟩ := emissions_repeat turning_loops 20
  exact ⟨state, played, next, repeats 11 (by decide) (by decide)⟩

theorem turning_emitted : ∃ state, turning.play 4 = some state ∧ state.emitted[3]? = some true := by
  have fades : Fades 64 (turning.window (3 + 1)) := by
    rw [show turning.window (3 + 1) = [fun _ => 0, fun _ => 64, fun _ => 128, fun _ => 192] from rfl]
    refine .cons_cons ?_ (.cons_cons ?_ (.cons_cons ?_ (.singleton _))) <;> funext i <;> simp [diff]
  exact fade_emitted turning_loops (by decide) (by decide) (by decide) fades

end Fades

end Camera

end Wotemu
