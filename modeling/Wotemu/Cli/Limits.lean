import Wotemu.Apps.Observation
import Wotemu.Cli.CpuBenchmark
import Wotemu.Foundation.Doubles
import Wotemu.Foundation.LeastSquares
import Wotemu.Foundation.Numerals

/-! The CPU limit that a task gives to its own container.

A line is fitted to the speeds of a benchmark that runs under several quotas.
The quota of the container is the one where the line reaches the target speed.
Each operation on doubles is rounded, so the quota may be one microsecond away
from the exact one.
-/

set_option autoImplicit false

namespace Wotemu

open Wotemu.Foundation Wotemu.Foundation.LeastSquares
open Wotemu.Historian (truncate)

namespace CpuBenchmark

section Output

def after (word text : List Char) : Option (List Char) :=
  if word.isPrefixOf text then some (text.drop word.length) else none

/-- `\s` -/
def afterSpace : List Char → Option (List Char)
  | [] => none
  | c :: rest => if isSpace c then some rest else none

/-- `\d` -/
def isDecimal (c : Char) : Bool := (decimalDigit c).isSome

/-- `\d+\.\d+` as a double. -/
def readSpeed (text : List Char) : Option Rat := do
  let whole := text.takeWhile isDecimal
  let decimals := (← after ['.'] (text.dropWhile isDecimal)).takeWhile isDecimal
  if whole = [] ∨ decimals = [] then none
  else (readUnsigned (whole ++ decimals)).map fun read => double (read / 10 ^ decimals.length)

/-- `_REGEX_SPEED` at the start of a text. -/
def matchSpeed (text : List Char) : Option Rat := do
  let text ← after "events".toList text
  let text ← afterSpace text
  let text ← after "per".toList text
  let text ← afterSpace text
  let text ← after "second:".toList text
  readSpeed (text.dropWhile isSpace)

/-- `re.search` -/
def searchSpeed (output : String) : Option Rat := output.toList.tails.findSome? matchSpeed

end Output

/-- The arguments of `get_cpu_core_speed_poly`, which are the keys of its cache. -/
structure Samples where
  num : Nat
  start : Rat
  stop : Rat
  deriving DecidableEq

def defaultSamples : Samples := ⟨6, double (1 / 10), 1⟩

/-- The last sample is the end itself. -/
def linspace (samples : Samples) : List Rat :=
  let step := double (double (samples.stop - samples.start) / (samples.num - 1))
  (List.range samples.num).map fun i =>
    if i + 1 = samples.num ∧ 1 < samples.num then samples.stop else double (double (i * step) + samples.start)

/-- What the fit of a line and the root of a line are: doubles. A fit to speeds at the default samples is nearly the
line of least squares, and a root has a real and an imaginary part. -/
structure Numpy where
  polyfit : List (Rat × Rat) → Rat × Rat
  polyfit_doubles : ∀ points, double (polyfit points).1 = (polyfit points).1 ∧
    double (polyfit points).2 = (polyfit points).2
  polyfit_near : ∀ points speed, points.map Prod.fst = 0 :: linspace defaultSamples →
    (∀ point ∈ points, |point.2| ≤ speed) → ∃ slope intercept, Fits points slope intercept ∧
      |(polyfit points).1 - slope| ≤ speed / 2 ^ 40 ∧ |(polyfit points).2 - intercept| ≤ speed / 2 ^ 40
  roots : List Rat → List (Rat × Rat)
  roots_line : ∀ slope intercept, slope ≠ 0 → roots [slope, intercept] = [(double (-intercept / slope), 0)]

/-- The process of the command: how often it ran the benchmark, its cache, and whether it has
warned that the target is out of reach. -/
structure Process where
  runs : Nat
  cache : Dict Samples Poly1d
  warned : Bool

def Process.initial : Process := ⟨0, [], false⟩

abbrev Command := StateT Process (Except PyError)

def cpuPeriod : Int := 100000

/-- `core_poly(x)` -/
def Poly1d.call (poly : Poly1d) (x : Rat) : Rat :=
  poly.coeffs.foldl (fun value coeff => double (double (value * x) + coeff)) 0

/-- What comes in place of a polynomial that is missing or has no truth value. -/
def truthyOr (poly : Option Poly1d) (other : Command Poly1d) : Command Poly1d :=
  match poly.filter Poly1d.truthy with
  | some found => pure found
  | none => other

def subtractTarget (coeffs : List Rat) (target : Rat) : List Rat :=
  coeffs.dropLast ++ coeffs.getLast?.toList.map fun coeff => double (coeff - target)

structure Update where
  cpuPeriod : Int
  cpuQuota : Int
  deriving DecidableEq

section Commands

-- the output of each run of the benchmark image under a quota is left open
variable (numpy : Numpy) (sysbench : Nat → Int → String)

def report (run : Nat) (cpus : Rat) : Option Rat := searchSpeed (sysbench run (truncate (double (cpuPeriod * cpus))))

def getCpuCoreSpeed (cpus : Rat) : Command Rat := do
  let process ← get
  set { process with runs := process.runs + 1 }
  match report sysbench process.runs cpus with
  | some speed => return speed
  -- the groups of no match
  | none => throw .attributeError

def measureAll (shares : List Rat) : Command (List (Rat × Rat)) :=
  shares.mapM fun cpus => return (cpus, ← getCpuCoreSpeed sysbench cpus)

def getCpuCoreSpeedPoly (samples : Samples) (cache : Bool) : Command Poly1d := do
  if samples.start ≤ 0 then throw .valueError
  let process ← get
  match if cache then (Dict.value? process.cache samples).filter Poly1d.truthy else none with
  | some poly => return poly
  | none => do
    let speeds ← measureAll sysbench (linspace samples)
    let line := numpy.polyfit ((0, 0) :: speeds)
    let poly := Poly1d.ofCoeffs [line.1, line.2]
    modify fun process => { process with cache := Dict.assign process.cache samples poly }
    return poly

def localCpuPoly : Command Poly1d := getCpuCoreSpeedPoly numpy sysbench defaultSamples true

def getCpuCoreScale (targetCoreSpeed : Int) (corePoly : Option Poly1d) : Command Rat := do
  let poly ← truthyOr corePoly (getCpuCoreSpeedPoly numpy sysbench defaultSamples true)
  -- next to the numbers of numpy the target is a double
  let target := double targetCoreSpeed
  if poly.call 1 < target then modify fun process => { process with warned := true }
  match (numpy.roots (subtractTarget poly.coeffs target)).find? fun root => root.2 = 0 with
  | some root => return max root.1 (double (1 / 100))
  | none => throw .indexError

/-- `update_limits` after the polynomial was asked for: what the container is updated to. -/
def updateLimits (speed : Int) (cpuPoly : Option Poly1d) : Command Update := do
  let poly ← truthyOr cpuPoly (localCpuPoly numpy sysbench)
  let speedScale ← getCpuCoreScale numpy sysbench speed (some poly)
  return ⟨cpuPeriod, truncate (double (cpuPeriod * speedScale))⟩

end Commands

section Measuring

variable {numpy : Numpy} {sysbench : Nat → Int → String}

/-- Whatever run it is, the benchmark reports a speed for each sample, and a higher one for more CPU. -/
structure Steady (sysbench : Nat → Int → String) (samples : Samples) : Prop where
  reports : ∀ run, ∀ cpus ∈ linspace samples, ∃ speed ∈ report sysbench run cpus, 0 < speed
  rises : ∀ run other, ∀ cpus ∈ linspace samples, ∀ more ∈ linspace samples, cpus < more →
    ∀ slow ∈ report sysbench run cpus, ∀ fast ∈ report sysbench other more, slow < fast

def Measured (sysbench : Nat → Int → String) (shares : List Rat) (points : List (Rat × Rat)) : Prop :=
  List.Forall₂ (fun cpus point => point.1 = cpus ∧ ∃ run, report sysbench run cpus = some point.2) shares points

theorem bind_run {α β : Type} {first : Command α} {rest : α → Command β} {value : α} {process after : Process}
    (ran : first process = .ok (value, after)) : (first >>= rest) process = rest value after := by
  simp only [bind, StateT.bind, ran, Except.bind]

theorem get_run (process : Process) : (get : Command Process) process = .ok (process, process) := rfl

theorem getCpuCoreSpeed_run {cpus speed : Rat} {process : Process}
    (reported : report sysbench process.runs cpus = some speed) :
    getCpuCoreSpeed sysbench cpus process = .ok (speed, { process with runs := process.runs + 1 }) := by
  unfold getCpuCoreSpeed
  rw [bind_run (get_run process), bind_run rfl]
  simp only [reported]
  rfl

theorem measureAll_run {shares : List Rat}
    (reports : ∀ run, ∀ cpus ∈ shares, ∃ speed, report sysbench run cpus = some speed) (process : Process) :
    ∃ points, measureAll sysbench shares process = .ok (points, { process with runs := process.runs + shares.length }) ∧
      Measured sysbench shares points := by
  -- along the shares, each of which is one more run of the benchmark
  induction shares generalizing process with
  | nil => exact ⟨[], rfl, .nil⟩
  | cons cpus shares ih =>
    obtain ⟨speed, reported⟩ := reports process.runs cpus List.mem_cons_self
    have others : ∀ run, ∀ other ∈ shares, ∃ speed, report sysbench run other = some speed :=
      fun run other member => reports run other (List.mem_cons_of_mem cpus member)
    obtain ⟨points, measured, all⟩ := ih others { process with runs := process.runs + 1 }
    refine ⟨(cpus, speed) :: points, ?_, .cons ⟨rfl, process.runs, reported⟩ all⟩
    have point : (do return (cpus, ← getCpuCoreSpeed sysbench cpus) : Command (Rat × Rat)) process =
        .ok ((cpus, speed), { process with runs := process.runs + 1 }) := by
      rw [bind_run (getCpuCoreSpeed_run reported)]
      rfl
    rw [measureAll] at measured ⊢
    rw [List.mapM_cons, bind_run point, bind_run measured, List.length_cons, Nat.add_comm shares.length 1,
      ← Nat.add_assoc]
    rfl

theorem Measured.reported {shares : List Rat} {points : List (Rat × Rat)} (measured : Measured sysbench shares points)
    {point : Rat × Rat} (member : point ∈ points) :
    point.1 ∈ shares ∧ ∃ run, report sysbench run point.1 = some point.2 := by
  induction measured with
  | nil => cases member
  | cons here _ ih =>
    rcases List.mem_cons.mp member with rfl | later
    · obtain ⟨rfl, reported⟩ := here
      exact ⟨List.mem_cons_self, reported⟩
    · exact ⟨List.mem_cons_of_mem _ (ih later).1, (ih later).2⟩

theorem Measured.eq_map {shares : List Rat} {points : List (Rat × Rat)} (measured : Measured sysbench shares points)
    {speed : Rat → Rat} (reports : ∀ run, ∀ cpus ∈ shares, report sysbench run cpus = some (speed cpus)) :
    points = shares.map fun cpus => (cpus, speed cpus) := by
  induction measured with
  | nil => rfl
  | @cons cpus point _ _ here _ ih =>
    obtain ⟨share, run, reported⟩ := here
    rw [reports run cpus List.mem_cons_self, Option.some_inj] at reported
    rw [List.map_cons, ih fun run other member => reports run other (List.mem_cons_of_mem cpus member), reported, ← share]

theorem default_range : ∀ cpus ∈ linspace defaultSamples, 1 / 10 ≤ cpus ∧ cpus ≤ 1 := by decide +kernel

theorem Measured.shares {shares : List Rat} {points : List (Rat × Rat)} (measured : Measured sysbench shares points) :
    points.map Prod.fst = shares := by
  induction measured with
  | nil => rfl
  | cons here _ ih => rw [List.map_cons, ih, here.1]

theorem Measured.nonempty {points : List (Rat × Rat)} (measured : Measured sysbench (linspace defaultSamples) points) :
    points ≠ [] := by
  rintro rfl
  cases measured

theorem Steady.points (steady : Steady sysbench defaultSamples) {points : List (Rat × Rat)}
    (measured : Measured sysbench (linspace defaultSamples) points) :
    (∀ point ∈ points, 1 / 10 ≤ point.1 ∧ point.1 ≤ 1 ∧ 0 < point.2) ∧ Rising ((0, 0) :: points) := by
  have positive : ∀ point ∈ points, 1 / 10 ≤ point.1 ∧ point.1 ≤ 1 ∧ 0 < point.2 := by
    intro point member
    obtain ⟨share, run, reported⟩ := measured.reported member
    obtain ⟨speed, same, positive⟩ := steady.reports run point.1 share
    rw [reported] at same
    cases same
    obtain ⟨least, most⟩ := default_range point.1 share
    exact ⟨least, most, positive⟩
  refine ⟨positive, ?_⟩
  intro p first q second apart
  rcases List.mem_cons.mp first with rfl | first <;> rcases List.mem_cons.mp second with rfl | second
  · exact absurd apart (lt_irrefl 0)
  · exact (positive q second).2.2
  · have least := (positive p first).1
    simp only at apart
    linarith
  · obtain ⟨share, run, reported⟩ := measured.reported first
    obtain ⟨other, later, faster⟩ := measured.reported second
    exact steady.rises run later p.1 share q.1 other apart p.2 reported q.2 faster

theorem spread_shares (points : List (Rat × Rat)) (shares : points.map Prod.fst = 0 :: linspace defaultSamples) :
    5 < spread points ∧ spread points < 6 := by
  have numbers : spread points = (points.map Prod.fst).length * ((points.map Prod.fst).map fun x => x * x).sum -
      (points.map Prod.fst).sum * (points.map Prod.fst).sum := by
    rw [List.map_map, List.length_map]
    rfl
  rw [numbers, shares]
  decide +kernel

/-- A line that rises with the share of the CPU and does not start far from zero. -/
structure Poly1d.Rises (poly : Poly1d) (slope intercept : Rat) : Prop where
  coeffs : poly.coeffs = [slope, intercept]
  rises : 0 < slope
  doubles : double slope = slope ∧ double intercept = intercept
  low : |intercept| ≤ 128 * slope

/-- The line is nearly that of the least squares for the points and for no speed without CPU. -/
def Fitted (points : List (Rat × Rat)) (slope intercept : Rat) : Prop :=
  ∃ a b, Fits ((0, 0) :: points) a b ∧ |slope - a| ≤ a / 2 ^ 32 ∧ |intercept - b| ≤ a / 2 ^ 32

def lineOf (numpy : Numpy) (points : List (Rat × Rat)) : Poly1d :=
  Poly1d.ofCoeffs [(numpy.polyfit ((0, 0) :: points)).1, (numpy.polyfit ((0, 0) :: points)).2]

theorem localCpuPoly_run {points : List (Rat × Rat)} {process after : Process} (fresh : process.cache = [])
    (ran : measureAll sysbench (linspace defaultSamples) process = .ok (points, after)) :
    localCpuPoly numpy sysbench process = .ok (lineOf numpy points,
      { after with cache := Dict.assign after.cache defaultSamples (lineOf numpy points) }) := by
  unfold localCpuPoly getCpuCoreSpeedPoly
  rw [if_neg (by decide +kernel)]
  beta_reduce
  rw [bind_run (get_run process), fresh]
  simp only [if_true, Dict.value?, List.lookup_nil, Option.filter_none]
  rw [bind_run ran]
  rfl

theorem Steady.slope (steady : Steady sysbench defaultSamples) {points : List (Rat × Rat)}
    (measured : Measured sysbench (linspace defaultSamples) points) {a b : Rat} (fits : Fits ((0, 0) :: points) a b) :
    0 < a ∧ ∀ point ∈ (0, 0) :: points, 0 ≤ point.2 ∧ point.2 ≤ 120 * a := by
  obtain ⟨positive, rising⟩ := steady.points measured
  obtain ⟨wide, narrow⟩ := spread_shares ((0, 0) :: points) (by rw [List.map_cons, measured.shares])
  have rise : ∀ point ∈ points, 1 / 10 * point.2 ≤ 2 * (a * spread ((0, 0) :: points)) := by
    intro point member
    obtain ⟨least, -, faster⟩ := positive point member
    have pair := fits.le_slope rising (List.mem_cons_of_mem _ member) List.mem_cons_self
    simp only [sub_zero] at pair
    exact (mul_le_mul_of_nonneg_right least faster.le).trans pair
  have grows : 0 < a := by
    obtain ⟨point, member⟩ := List.exists_mem_of_ne_nil points measured.nonempty
    have faster := (positive point member).2.2
    have product : 0 < a * spread ((0, 0) :: points) := by linarith [rise point member]
    exact (pos_iff_pos_of_mul_pos product).mpr (by linarith)
  have whole : a * spread ((0, 0) :: points) ≤ a * 6 := mul_le_mul_of_nonneg_left narrow.le grows.le
  refine ⟨grows, fun point member => ?_⟩
  rcases List.mem_cons.mp member with rfl | member
  · simpa using grows.le
  · exact ⟨(positive point member).2.2.le, by linarith [rise point member]⟩

theorem Steady.lineOf (numpy : Numpy) (steady : Steady sysbench defaultSamples) {points : List (Rat × Rat)}
    (measured : Measured sysbench (linspace defaultSamples) points) : ∃ slope intercept,
      Fitted points slope intercept ∧ (lineOf numpy points).Rises slope intercept := by
  have shares : ((0, 0) :: points).map Prod.fst = 0 :: linspace defaultSamples := by
    rw [List.map_cons, measured.shares]
  have spread := (spread_shares _ shares).1
  have range : ∀ point ∈ (0, 0) :: points, 0 ≤ point.1 ∧ point.1 ≤ 1 := by
    intro point member
    rcases List.mem_cons.mp member with rfl | member
    · simp
    · obtain ⟨least, most, -⟩ := (steady.points measured).1 point member
      exact ⟨by linarith, most⟩
  have wide : Wide ((0, 0) :: points) := by
    obtain ⟨point, member⟩ := List.exists_mem_of_ne_nil points measured.nonempty
    refine ⟨(0, 0), List.mem_cons_self, point, List.mem_cons_of_mem _ member, ?_⟩
    linarith [((steady.points measured).1 point member).1]
  obtain ⟨rises, speeds⟩ := steady.slope measured (leastSquares_fits wide)
  obtain ⟨a, b, near, slopeNear, interceptNear⟩ := numpy.polyfit_near _ _ shares fun point member =>
    (abs_of_nonneg (speeds point member).1).trans_le (speeds point member).2
  -- there is only one slope of least squares
  have same : (leastSquares ((0, 0) :: points)).1 = a := mul_right_cancel₀ (by linarith)
    ((leastSquares_fits wide).slope_mul.trans near.slope_mul.symm)
  rw [same] at rises speeds slopeNear interceptNear
  have top := near.intercept_le (List.cons_ne_nil _ _) rises.le (fun point member => (range point member).1)
    fun point member => (speeds point member).2
  have bottom := near.le_intercept (List.cons_ne_nil _ _) rises.le (fun point member => (range point member).2)
    fun point member => (speeds point member).1
  refine ⟨(numpy.polyfit ((0, 0) :: points)).1, (numpy.polyfit ((0, 0) :: points)).2,
    ⟨a, b, near, by linarith, by linarith⟩, ?_⟩
  rw [abs_le] at slopeNear interceptNear
  have positive : 0 < (numpy.polyfit ((0, 0) :: points)).1 := by linarith
  refine ⟨?_, positive, numpy.polyfit_doubles _, abs_le.mpr ⟨by linarith, by linarith⟩⟩
  simp [CpuBenchmark.lineOf, Poly1d.ofCoeffs, trimZeros, positive.ne']

theorem Steady.localCpuPoly (numpy : Numpy) (steady : Steady sysbench defaultSamples) {process : Process}
    (fresh : process.cache = []) :
    ∃ points slope intercept poly after, localCpuPoly numpy sysbench process = .ok (poly, after) ∧
      Measured sysbench (linspace defaultSamples) points ∧ Fitted points slope intercept ∧
      poly.Rises slope intercept ∧ after.warned = process.warned := by
  have reports : ∀ run, ∀ cpus ∈ linspace defaultSamples, ∃ speed, report sysbench run cpus = some speed := by
    intro run cpus member
    obtain ⟨speed, reported, -⟩ := steady.reports run cpus member
    exact ⟨speed, reported⟩
  obtain ⟨points, ran, measured⟩ := measureAll_run reports process
  obtain ⟨slope, intercept, fitted, rises⟩ := steady.lineOf numpy measured
  exact ⟨points, slope, intercept, _, _, localCpuPoly_run fresh ran, measured, fitted, rises, rfl⟩

end Measuring

section Scaling

variable {numpy : Numpy} {sysbench : Nat → Int → String} {poly : Poly1d} {slope intercept : Rat}

theorem Poly1d.Rises.call_one (rises : poly.Rises slope intercept) : poly.call 1 = double (slope + intercept) := by
  simp [Poly1d.call, rises.coeffs, double_zero, rises.doubles.1]

theorem Poly1d.Rises.truthy (rises : poly.Rises slope intercept) : poly.truthy = true := by
  simp [Poly1d.truthy, rises.coeffs]

theorem Poly1d.Rises.truthyOr (rises : poly.Rises slope intercept) (other : Command Poly1d) (process : Process) :
    truthyOr (some poly) other process = .ok (poly, process) := by
  rw [CpuBenchmark.truthyOr, Option.filter_some, if_pos rises.truthy]
  rfl

def scale (slope intercept target : Rat) : Rat :=
  max (double (-double (intercept - target) / slope)) (double (1 / 100))

def quotaOf (slope intercept target : Rat) : Int := truncate (double (cpuPeriod * scale slope intercept target))

theorem Poly1d.Rises.getCpuCoreScale (rises : poly.Rises slope intercept) (target : Int) (process : Process) :
    getCpuCoreScale numpy sysbench target (some poly) process = .ok (scale slope intercept (double target),
      { process with warned := process.warned || double (slope + intercept) < double target }) := by
  have root := numpy.roots_line slope (double (intercept - double target)) rises.rises.ne'
  have lowered : subtractTarget poly.coeffs (double target) = [slope, double (intercept - double target)] := by
    simp [subtractTarget, rises.coeffs]
  unfold CpuBenchmark.getCpuCoreScale
  rw [bind_run (rises.truthyOr _ process)]
  simp only [lowered, root, rises.call_one]
  by_cases high : double (slope + intercept) < double target
  · rw [if_pos high, bind_run rfl]
    simp [high, scale]
    rfl
  · rw [if_neg high]
    simp [high, scale]
    rfl

theorem Poly1d.Rises.updateLimits (rises : poly.Rises slope intercept) (speed : Int) (process : Process) :
    updateLimits numpy sysbench speed (some poly) process =
      .ok (⟨cpuPeriod, quotaOf slope intercept (double speed)⟩,
        { process with warned := process.warned || double (slope + intercept) < double speed }) := by
  unfold CpuBenchmark.updateLimits
  rw [bind_run (rises.truthyOr _ process), bind_run (rises.getCpuCoreScale speed process)]
  rfl

end Scaling

section Quotas

variable {poly : Poly1d} {slope intercept target : Rat}

/-- The share of the CPU where the line reaches the target, but one percent at least. -/
def share (slope intercept target : Rat) : Rat := max ((target - intercept) / slope) (1 / 100)

/-- The quota is the most microseconds whose speed on the line is not above the target, or not above that of one
percent of the CPU, up to the rounding of doubles. -/
def Limited (slope intercept target : Rat) (quota : Int) : Prop :=
  let exact := cpuPeriod * share slope intercept target
  quota ≤ exact + exact / 2 ^ 50 ∧ exact - exact / 2 ^ 50 < quota + 1

theorem scale_eq (slope intercept target : Rat) :
    scale slope intercept target = max (double (double (target - intercept) / slope)) (double (1 / 100)) := by
  rw [scale, ← neg_sub, double_neg, neg_neg]

theorem share_least (slope intercept target : Rat) : 1 / 100 ≤ share slope intercept target := le_max_right _ _

theorem scale_least (slope intercept target : Rat) : 1 / 100 ≤ scale slope intercept target :=
  (show (1 / 100 : Rat) ≤ double (1 / 100) by decide +kernel).trans (le_max_right _ _)

theorem quotient_bounds (rises : 0 < slope) {distance : Rat} (nonneg : 0 ≤ distance) :
    distance / slope - distance / slope / 2 ^ 51 ≤ double (double distance / slope) ∧
      double (double distance / slope) ≤ distance / slope + distance / slope / 2 ^ 51 := by
  have first := double_bounds nonneg
  have quotient : 0 ≤ double distance / slope := div_nonneg (double_nonneg nonneg) rises.le
  have second := double_bounds quotient
  have lower := div_le_div_of_nonneg_right first.1 rises.le
  have upper := div_le_div_of_nonneg_right first.2 rises.le
  rw [sub_div, div_right_comm] at lower
  rw [add_div, div_right_comm] at upper
  have positive : 0 ≤ distance / slope := div_nonneg nonneg rises.le
  constructor <;> linarith

theorem quotient_nonpos (rises : 0 < slope) {distance : Rat} (nonpos : distance ≤ 0) :
    double (double distance / slope) ≤ 0 := by
  have first := double_mono nonpos
  rw [double_zero] at first
  have second := double_mono (div_nonpos_of_nonpos_of_nonneg first rises.le)
  rwa [double_zero] at second

theorem scale_bounds (rises : 0 < slope) (intercept target : Rat) :
    share slope intercept target - share slope intercept target / 2 ^ 51 ≤ scale slope intercept target ∧
      scale slope intercept target ≤ share slope intercept target + share slope intercept target / 2 ^ 51 := by
  have least := share_least slope intercept target
  have onePercent := double_bounds (show (0 : Rat) ≤ 1 / 100 by norm_num)
  have reached : (target - intercept) / slope ≤ share slope intercept target := le_max_left _ _
  rw [scale_eq]
  constructor
  · rcases max_choice ((target - intercept) / slope) (1 / 100) with same | same
    · have nonneg : 0 ≤ target - intercept := by
        rw [share, same] at least
        by_contra negative
        have below := div_neg_of_neg_of_pos (not_le.mp negative) rises
        linarith
      rw [share, same]
      exact (quotient_bounds rises nonneg).1.trans (le_max_left _ _)
    · rw [share, same]
      refine le_trans ?_ (le_max_right _ _)
      linarith
  · refine max_le ?_ (by linarith)
    rcases le_total 0 (target - intercept) with nonneg | nonpos
    · linarith [(quotient_bounds rises nonneg).2]
    · linarith [quotient_nonpos rises nonpos]

theorem quotaOf_bounds (slope intercept target : Rat) :
    quotaOf slope intercept target ≤ double (cpuPeriod * scale slope intercept target) ∧
      double (cpuPeriod * scale slope intercept target) < quotaOf slope intercept target + 1 := by
  have least := scale_least slope intercept target
  have positive : 0 ≤ double (cpuPeriod * scale slope intercept target) := by
    refine double_nonneg ?_
    unfold cpuPeriod
    push_cast
    linarith
  have above := Rat.lt_floor_add_one (double (cpuPeriod * scale slope intercept target))
  push_cast at above
  rw [quotaOf, truncate, if_pos positive]
  exact ⟨Rat.floor_le _, above⟩

theorem quotaOf_limited (rises : 0 < slope) (intercept target : Rat) :
    Limited slope intercept target (quotaOf slope intercept target) := by
  obtain ⟨lower, upper⟩ := scale_bounds rises intercept target
  obtain ⟨below, above⟩ := quotaOf_bounds slope intercept target
  have least := share_least slope intercept target
  have product : (0 : Rat) ≤ cpuPeriod * scale slope intercept target := by
    unfold cpuPeriod
    push_cast
    linarith [scale_least slope intercept target]
  have rounded := double_bounds product
  unfold Limited
  unfold cpuPeriod at *
  push_cast at *
  constructor <;> linarith

theorem quotaOf_least (slope intercept target : Rat) : 1000 ≤ quotaOf slope intercept target := by
  have least := scale_least slope intercept target
  have product : ((1000 : Int) : Rat) ≤ cpuPeriod * scale slope intercept target := by
    unfold cpuPeriod
    push_cast
    linarith
  have rounded := double_mono product
  rw [double_intCast (by decide)] at rounded
  have above := (quotaOf_bounds slope intercept target).2
  exact Int.le_of_lt_add_one (by exact_mod_cast rounded.trans_lt above)

/-- A higher target never gets a smaller quota. -/
theorem quotaOf_mono (rises : 0 < slope) {other : Rat} (le : target ≤ other) :
    quotaOf slope intercept target ≤ quotaOf slope intercept other := by
  have more : scale slope intercept target ≤ scale slope intercept other := by
    rw [scale_eq, scale_eq]
    refine max_le_max_right _ (double_mono (div_le_div_of_nonneg_right ?_ rises.le))
    exact double_mono (sub_le_sub_right le intercept)
  exact Historian.truncate_mono (double_mono (mul_le_mul_of_nonneg_left more (by decide +kernel)))

/-- All roundings keep the order. -/
theorem Poly1d.Rises.period_le_quota (rises : poly.Rises slope intercept) (isDouble : double target = target)
    (high : double (slope + intercept) < target) : cpuPeriod ≤ quotaOf slope intercept target := by
  have more : slope ≤ target - intercept := by
    by_contra less
    have rounded := double_mono (show target ≤ slope + intercept by linarith)
    rw [isDouble] at rounded
    exact absurd high (not_lt.mpr rounded)
  have first := double_mono more
  rw [rises.doubles.1] at first
  have quotient : ((1 : Int) : Rat) ≤ double (target - intercept) / slope := by
    rw [Int.cast_one, one_le_div rises.rises]
    exact first
  have second := double_mono quotient
  rw [double_intCast (by decide)] at second
  have whole : (cpuPeriod : Rat) ≤ cpuPeriod * scale slope intercept target := by
    have least := second.trans (le_max_left _ (double (1 / 100)))
    rw [scale_eq, show (cpuPeriod : Rat) = 100000 from rfl]
    push_cast at least
    linarith
  have third := double_mono whole
  rw [double_intCast (by decide)] at third
  exact Int.le_of_lt_add_one (by exact_mod_cast third.trans_lt (quotaOf_bounds slope intercept target).2)

theorem Poly1d.Rises.quota_le_period (rises : poly.Rises slope intercept)
    (low : target ≤ double (slope + intercept)) : quotaOf slope intercept target ≤ cpuPeriod := by
  have period : (cpuPeriod : Rat) = 100000 := rfl
  have size : |slope + intercept| ≤ 129 * slope := by
    have near := abs_le.mp rises.low
    exact abs_le.mpr ⟨by linarith [rises.rises], by linarith⟩
  have error := (abs_le.mp (double_relative (slope + intercept))).2
  have reached : (target - intercept) / slope ≤ 1 + 1 / 2 ^ 45 := by
    rw [div_le_iff₀ rises.rises]
    norm_num at error ⊢
    linarith [rises.rises]
  have part : share slope intercept target ≤ 1 + 1 / 2 ^ 45 := max_le reached (by norm_num)
  have limited := (quotaOf_limited rises.rises intercept target).1
  simp only [period] at limited
  have less : (quotaOf slope intercept target : Rat) < (cpuPeriod + 1 : Int) := by
    push_cast
    rw [period]
    linarith
  exact Int.lt_add_one_iff.mp (by exact_mod_cast less)

theorem Poly1d.Rises.quota_period (rises : poly.Rises slope intercept) (isDouble : double target = target) :
    if double (slope + intercept) < target then cpuPeriod ≤ quotaOf slope intercept target
    else quotaOf slope intercept target ≤ cpuPeriod := by
  split
  case isTrue high => exact rises.period_le_quota isDouble high
  case isFalse low => exact rises.quota_le_period (not_lt.mp low)

end Quotas

section Local

variable {numpy : Numpy} {sysbench : Nat → Int → String}

theorem Poly1d.Rises.updateLimits_none {poly : Poly1d} {slope intercept : Rat} (rises : poly.Rises slope intercept)
    {process after : Process} (measured : localCpuPoly numpy sysbench process = .ok (poly, after)) (speed : Int) :
    CpuBenchmark.updateLimits numpy sysbench speed none process =
      CpuBenchmark.updateLimits numpy sysbench speed (some poly) after := by
  unfold CpuBenchmark.updateLimits
  rw [bind_run (rises.truthyOr _ after), CpuBenchmark.truthyOr, Option.filter_none, bind_run measured]

/-- With a benchmark of its own, the command limits the container to the target. It warns when the
target is above what the whole CPU gives. -/
theorem updateLimits_limited (numpy : Numpy) (steady : Steady sysbench defaultSamples) (speed : Int) :
    ∃ points slope intercept quota after, ∃ poly : Poly1d,
      updateLimits numpy sysbench speed none Process.initial = .ok (⟨cpuPeriod, quota⟩, after) ∧
      Measured sysbench (linspace defaultSamples) points ∧ Fitted points slope intercept ∧
      poly.Rises slope intercept ∧ 1000 ≤ quota ∧ Limited slope intercept (double speed) quota ∧
      (if after.warned then cpuPeriod ≤ quota else quota ≤ cpuPeriod) := by
  obtain ⟨points, slope, intercept, poly, after, ran, measured, fitted, rises, quiet⟩ :=
    steady.localCpuPoly numpy (rfl : Process.initial.cache = [])
  have updated := rises.updateLimits_none ran speed
  rw [rises.updateLimits] at updated
  refine ⟨points, slope, intercept, _, _, poly, updated, measured, fitted, rises, quotaOf_least _ _ _,
    quotaOf_limited rises.rises _ _, ?_⟩
  simpa [quiet, Process.initial] using rises.quota_period (double_double speed)

end Local

section Node

variable {numpy : Numpy} {outputs : Nat → Nat → Int → String} {state next : State}

/-- What `_get_cpu_poly` gives to the task, unless it raises. -/
def Stage.outcome : Stage → Option Poly1d
  | .built poly | .received poly => some poly
  | _ => none

def Genuine (numpy : Numpy) (outputs : Nat → Nat → Int → String) : Nat × Action → Prop
  | (task, .localCpuPoly poly) => ∃ after, localCpuPoly numpy (outputs task) Process.initial = .ok (poly, after)
  | _ => True

def AllRise (state : State) : Prop :=
  ∀ task poly, state.stage task = .publishing poly ∨ state.stage task = .built poly →
    ∃ slope intercept, poly.Rises slope intercept

theorem act_measured {action : Action} {key : Option KeyValue} {stage : Stage} {result : Option KeyValue × Stage}
    {poly : Poly1d} (acted : act action key stage = some result)
    (holds : result.2 = .publishing poly ∨ result.2 = .built poly) :
    action = .localCpuPoly poly ∨ stage = .publishing poly := by
  cases action with
  | localCpuPoly measured =>
    cases stage <;> cases acted
    rcases holds with same | same <;> cases same
    exact .inl rfl
  | setRedisPoly =>
    cases stage <;> cases acted
    rcases holds with same | same <;> cases same
    exact .inr rfl
  | shouldBuildPoly =>
    cases stage <;> cases acted
    -- the other steps leave a stage without a measurement
    dsimp only at holds
    split at holds <;> simp at holds
  | lockPoly =>
    cases stage <;> cases acted
    simp at holds
  | getRedisPoly =>
    cases stage <;> try cases acted
    simp only [act] at acted
    split at acted
    · cases acted
      dsimp only at holds
      split at holds <;> simp at holds
    · cases acted
      simp at holds
  | wake expired =>
    cases stage <;> cases acted
    dsimp only at holds
    split at holds <;> simp at holds

theorem initial_allRise : AllRise initial := by
  intro task poly measured
  rcases measured with same | same <;> cases same

theorem step_allRise (steady : ∀ task, Steady (outputs task) defaultSamples) (state : State) (event : Nat × Action)
    (next : State) (genuine : Genuine numpy outputs event) (allRise : AllRise state)
    (stepped : step state event = some next) : AllRise next := by
  obtain ⟨task, action⟩ := event
  obtain ⟨result, acted, rfl⟩ := Agents.step_eq_some.mp stepped
  intro other poly same
  rcases Agents.before_advance (fun stage => stage = Stage.publishing poly ∨ stage = Stage.built poly) same with
    ⟨-, new⟩ | ⟨-, old⟩
  · rcases act_measured acted new with measured | published
    · dsimp only at measured
      subst measured
      obtain ⟨after, ran⟩ := genuine
      obtain ⟨_, slope, intercept, _, _, found, -, -, rises, -⟩ :=
        (steady task).localCpuPoly numpy (rfl : Process.initial.cache = [])
      rw [ran] at found
      cases found
      exact ⟨slope, intercept, rises⟩
    · exact allRise task poly (.inl published)
  · exact allRise other poly old

theorem Locked.outcome (locked : Locked state) {task : Nat} {poly : Poly1d}
    (ended : (state.stage task).outcome = some poly) : Published state poly := by
  cases stage : state.stage task with
  | built other =>
    rw [stage] at ended
    cases ended
    exact ⟨task, stage⟩
  | received other =>
    rw [stage] at ended
    cases ended
    exact locked.received task poly stage
  | _ =>
    rw [stage] at ended
    cases ended

/-- All polynomials that the tasks of a node end with are the same. -/
theorem Locked.outcome_unique (locked : Locked state) {first second : Nat} {poly other : Poly1d}
    (left : (state.stage first).outcome = some poly) (right : (state.stage second).outcome = some other) :
    poly = other := by
  obtain ⟨builder, built, holds⟩ := (locked.outcome left).holds
  obtain ⟨rival, rebuilt, alsoHolds⟩ := (locked.outcome right).holds
  have same : builder = rival := locked.guarded.alone builder rival holds alsoHolds
  rw [same, rebuilt] at built
  cases built
  rfl

/-- While nobody takes the lock a second time, the quotas of the tasks of a node are those of one
polynomial, so a task with a higher target never gets a smaller quota. -/
theorem node_limited (steady : ∀ task, Steady (outputs task) defaultSamples) (events : List (Nat × Action))
    (ran : Transition.run step initial events = some state)
    (uncontended : Transition.Along step Uncontended initial events)
    (genuine : ∀ event ∈ events, Genuine numpy outputs event)
    {first second : Nat} {poly other : Poly1d} (left : (state.stage first).outcome = some poly)
    (right : (state.stage second).outcome = some other) {speed higher : Int} (le : speed ≤ higher)
    (process rival : Process) : other = poly ∧ ∃ quota more after later,
      updateLimits numpy (outputs first) speed (some poly) process = .ok (⟨cpuPeriod, quota⟩, after) ∧
      updateLimits numpy (outputs second) higher (some other) rival = .ok (⟨cpuPeriod, more⟩, later) ∧
      (∃ slope intercept, poly.Rises slope intercept ∧ Limited slope intercept (double speed) quota ∧
        Limited slope intercept (double higher) more) ∧ quota ≤ more := by
  have locked := Transition.run_preserves step_locked initial_locked ran uncontended
  have allRise := Transition.run_invariant (step_allRise steady) genuine initial_allRise ran
  have same := locked.outcome_unique left right
  subst same
  obtain ⟨builder, built⟩ := locked.outcome left
  obtain ⟨slope, intercept, rises⟩ := allRise builder poly (.inr built)
  have ordered : ((speed : Int) : Rat) ≤ higher := by exact_mod_cast le
  exact ⟨rfl, _, _, _, _, rises.updateLimits speed process, rises.updateLimits higher rival,
    ⟨slope, intercept, rises, quotaOf_limited rises.rises _ _, quotaOf_limited rises.rises _ _⟩,
    quotaOf_mono rises.rises (double_mono ordered)⟩

end Node

section Host

def lineRoots : List Rat → List (Rat × Rat)
  | [slope, intercept] => if slope = 0 then [] else [(double (-intercept / slope), 0)]
  | _ => []

theorem leastSquares_bounded {points : List (Rat × Rat)} {a b speed : Rat}
    (shares : points.map Prod.fst = 0 :: linspace defaultSamples) (slow : ∀ point ∈ points, |point.2| ≤ speed)
    (fits : Fits points a b) : |a| ≤ 10 * speed ∧ |b| ≤ 11 * speed := by
  have spread := (spread_shares _ shares).1
  have length : (points.length : Rat) = 7 := by
    rw [← List.length_map (f := Prod.fst), shares]
    decide +kernel
  have range : ∀ point ∈ points, 0 ≤ point.1 ∧ point.1 ≤ 1 := by
    intro point member
    have share : point.1 ∈ 0 :: linspace defaultSamples := shares ▸ List.mem_map_of_mem member
    rcases List.mem_cons.mp share with zero | share
    · rw [zero]
      norm_num
    · obtain ⟨least, most⟩ := default_range _ share
      exact ⟨by linarith, most⟩
  have slope : |a| ≤ 10 * speed := by
    have pairs : |total (fun p => total (fun q => (p.1 - q.1) * (p.2 - q.2)) points) points| ≤
        points.length * (points.length * (1 * (2 * speed))) := by
      refine abs_total_le fun p first => abs_total_le fun q second => ?_
      rw [abs_mul]
      refine mul_le_mul ?_ ?_ (abs_nonneg _) zero_le_one
      · obtain ⟨least, most⟩ := range p first
        obtain ⟨below, above⟩ := range q second
        exact abs_le.mpr ⟨by linarith, by linarith⟩
      · obtain ⟨least, most⟩ := abs_le.mp (slow p first)
        obtain ⟨below, above⟩ := abs_le.mp (slow q second)
        exact abs_le.mpr ⟨by linarith, by linarith⟩
    rw [total_pairs, ← fits.slope_mul, abs_mul, abs_mul, length, abs_of_pos (spread.trans' (by norm_num)),
      abs_of_pos (by norm_num : (0 : Rat) < 2)] at pairs
    have least := mul_le_mul_of_nonneg_left spread.le (abs_nonneg a)
    linarith [abs_nonneg a]
  refine ⟨slope, ?_⟩
  have mean := fits.normal.2
  have height : |totalY points| ≤ points.length * speed := abs_total_le slow
  have width : |totalX points| ≤ points.length * 1 :=
    abs_total_le fun point member => abs_le.mpr ⟨by linarith [(range point member).1], (range point member).2⟩
  rw [length] at mean height width
  have product : |a * totalX points| ≤ 10 * speed * 7 := by
    rw [abs_mul]
    exact mul_le_mul slope (by linarith) (abs_nonneg _) ((abs_nonneg a).trans slope)
  rw [abs_le] at height product ⊢
  constructor <;> linarith

def roundedNumpy : Numpy where
  polyfit := fun points => (double (leastSquares points).1, double (leastSquares points).2)
  polyfit_doubles := fun _ => ⟨double_double _, double_double _⟩
  polyfit_near := by
    intro points speed shares slow
    have wide : Wide points := by
      have ends : 0 ∈ points.map Prod.fst ∧ 1 ∈ points.map Prod.fst := by
        rw [shares]
        decide +kernel
      obtain ⟨first, left, zero⟩ := List.mem_map.mp ends.1
      obtain ⟨last, right, one⟩ := List.mem_map.mp ends.2
      exact ⟨first, left, last, right, by rw [zero, one]; norm_num⟩
    have fits := leastSquares_fits wide
    obtain ⟨slope, intercept⟩ := leastSquares_bounded shares slow fits
    have first := double_relative (leastSquares points).1
    have second := double_relative (leastSquares points).2
    have nonneg : 0 ≤ speed := by linarith [abs_nonneg (leastSquares points).1]
    norm_num at first second
    exact ⟨_, _, fits, by linarith, by linarith⟩
  roots := lineRoots
  roots_line := fun _ _ nonzero => if_neg nonzero

def thousandHost (_run : Nat) (quota : Int) : String :=
  "CPU speed:\n    events per second:  " ++ toString (quota / 100) ++ ".00\n"

def thousandSpeed (cpus : Rat) : Rat := (truncate (double (cpuPeriod * cpus)) / 100 : Int)

theorem report_thousandHost : ∀ run, ∀ cpus ∈ linspace defaultSamples,
    report thousandHost run cpus = some (thousandSpeed cpus) := by
  have once : ∀ cpus ∈ linspace defaultSamples, report thousandHost 0 cpus = some (thousandSpeed cpus) := by
    decide +kernel
  exact fun _ => once

theorem thousandHost_steady : Steady thousandHost defaultSamples where
  reports := by
    have positive : ∀ cpus ∈ linspace defaultSamples, 0 < thousandSpeed cpus := by decide +kernel
    exact fun run cpus member => ⟨_, report_thousandHost run cpus member, positive cpus member⟩
  rises := by
    have rises : ∀ cpus ∈ linspace defaultSamples, ∀ more ∈ linspace defaultSamples, cpus < more →
        thousandSpeed cpus < thousandSpeed more := by decide +kernel
    intro run other cpus member more later less slow isSlow fast isFast
    rw [report_thousandHost run cpus member] at isSlow
    rw [report_thousandHost other more later] at isFast
    cases isSlow
    cases isFast
    exact rises cpus member more later less

theorem thousandHost_limited : ∃ points slope intercept quota after, ∃ poly : Poly1d,
    updateLimits roundedNumpy thousandHost 290 none Process.initial = .ok (⟨cpuPeriod, quota⟩, after) ∧
    Measured thousandHost (linspace defaultSamples) points ∧ Fitted points slope intercept ∧
    poly.Rises slope intercept ∧ 1000 ≤ quota ∧ Limited slope intercept (double (290 : Int)) quota ∧
    (if after.warned then cpuPeriod ≤ quota else quota ≤ cpuPeriod) :=
  updateLimits_limited roundedNumpy thousandHost_steady 290

def thousandLine : Poly1d := Poly1d.ofCoeffs [1000, -8540604843139715 / 2 ^ 100]

theorem thousandHost_measured : ∃ after,
    localCpuPoly roundedNumpy thousandHost Process.initial = .ok (thousandLine, after) := by
  obtain ⟨points, ran, measured⟩ := @measureAll_run thousandHost (linspace defaultSamples)
    (fun run cpus member => ⟨_, report_thousandHost run cpus member⟩) Process.initial
  have same := measured.eq_map report_thousandHost
  have line : lineOf roundedNumpy points = thousandLine := by
    have fitted : roundedNumpy.polyfit ((0, 0) :: points) = (1000, -8540604843139715 / 2 ^ 100) := by
      rw [same]
      decide +kernel
    rw [lineOf, fitted]
    rfl
  exact ⟨_, line ▸ localCpuPoly_run rfl ran⟩

def sharing : List (Nat × Action) :=
  [(0, .shouldBuildPoly), (0, .lockPoly), (1, .shouldBuildPoly), (1, .getRedisPoly), (0, .localCpuPoly thousandLine),
    (0, .setRedisPoly), (1, .wake false), (1, .getRedisPoly)]

theorem sharing_limited : ∃ quota more after later,
    updateLimits roundedNumpy thousandHost 300 (some thousandLine) Process.initial = .ok (⟨cpuPeriod, quota⟩, after) ∧
    updateLimits roundedNumpy thousandHost 500 (some thousandLine) Process.initial = .ok (⟨cpuPeriod, more⟩, later) ∧
    (∃ slope intercept, thousandLine.Rises slope intercept ∧ Limited slope intercept (double (300 : Int)) quota ∧
      Limited slope intercept (double (500 : Int)) more) ∧ quota ≤ more := by
  have genuine : ∀ event ∈ sharing, Genuine roundedNumpy (fun _ => thousandHost) event := by
    simp only [sharing, List.forall_mem_cons, List.not_mem_nil, false_implies, implies_true, Genuine, true_and,
      and_true]
    exact thousandHost_measured
  obtain ⟨state, ran, first, second⟩ : ∃ state, Transition.run step initial sharing = some state ∧
      (state.stage 0).outcome = some thousandLine ∧ (state.stage 1).outcome = some thousandLine := ⟨_, rfl, rfl, rfl⟩
  exact (node_limited (fun _ => thousandHost_steady) sharing ran (by decide) genuine first second
    (by decide : (300 : Int) ≤ 500) Process.initial Process.initial).2

end Host

end CpuBenchmark

end Wotemu
