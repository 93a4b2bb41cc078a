import Exec09.Cpu.Run

/-!
# The smallest machine

64K of RAM behind the bus, no devices and no debugger.  The concrete programs of this development
run on it.
-/

namespace Exec09

/-- Memory as the list of bytes written, latest first; everything else reads as zero. -/
structure Flat where
  mem : List (Unsigned × U8)
  deriving DecidableEq, Repr

namespace Flat

def get (w : Flat) (addr : Unsigned) : U8 := (w.mem.lookup addr).getD 0

def put (w : Flat) (addr : Unsigned) (d : U8) : Flat := ⟨(addr, d) :: w.mem⟩

/-- Bytes from an address on. -/
def bytes (addr : Unsigned) : List U8 → List (Unsigned × U8)
  | [] => []
  | b :: l => (addr, b) :: bytes (addr + 1) l

instance : Machine Flat where
  read8 _ w addr := ⟨w.get addr, w, []⟩
  read16 _ w addr := ⟨w.get addr ++ w.get (addr + 1), w, []⟩
  write8 _ w addr d := ⟨w.put addr d, []⟩
  insnHook _ w := ⟨(), w, []⟩
  cpuIsRunning w := w
  debugEnabled := false
  nesting := 1

end Flat

/-- The globals as the C program starts: all zero. -/
def Cpu.zeroed {σ : Type} (w : σ) : Cpu σ where
  X := 0
  Y := 0
  S := 0
  U := 0
  PC := 0
  A := 0
  B := 0
  DP := 0
  flags := { H := 0, N := 0, Z := 0, OV := 0, C := 0 }
  EFI := 0
  iPC := 0
  ea := 0
  cpuClk := 0
  cpuPeriod := 0
  total := 0
  irqsPending := 0
  firqsPending := 0
  ccChanged := 0
  monitorOn := false
  world := w
  simErrors := 0
  hist := []

/-- The value a program returns, if it returns normally. -/
def result {σ α : Type} (m : M σ α) (s : Cpu σ) : Option α :=
  match m s with
  | .ok (a, _) => some a
  | .error _ => none

/-- The state a program leaves, or the one it started in if it exits. -/
def after {σ α : Type} (m : M σ α) (s : Cpu σ) : Cpu σ :=
  match m s with
  | .ok (_, t) => t
  | .error _ => s

lemma eq_ok_after {σ α : Type} {m : M σ α} {s : Cpu σ} {a : α} (h : result m s = some a) :
    m s = .ok (a, after m s) := by
  unfold after
  rcases hm : m s with e | ⟨b, t⟩
  · simp [result, hm] at h
  · simp only [result, hm, Option.some.injEq] at h
    rw [h]

end Exec09
