import Sp11Touch.Core.CInt
import Mathlib.Data.Finset.Card
import Mathlib.Logic.Function.Basic
/-!
# The assignment solver with potentials (shortest augmenting paths)

The textbook solver on one-based work arrays: rows `1 .. n` are inserted one
at a time. For row `i`, `p 0 = i`; `search` grows a tree of used columns
along reduced costs until it meets a free column, and `augment` shifts the
matching back along `way`. `p j` is the row matched to column `j`, `0` for
none; `u` and `v` are the row and column potentials.

Both loops are `do .. while` loops with fuel.
-/
namespace Sp11Touch.Hungarian
open CInt

structure Work where
  u : Nat → Int
  v : Nat → Int
  p : Nat → Nat
  way : Nat → Nat
  minv : Nat → Int
  used : Nat → Bool

def Work.zero : Work := ⟨fun _ => 0, fun _ => 0, fun _ => 0, fun _ => 0, fun _ => 0, fun _ => false⟩

/-- The locals of one scan: `delta` and the column `j1` it comes from. -/
structure Scan where
  minv : Nat → Int
  way : Nat → Nat
  delta : Int
  j1 : Nat

section
variable (cost : Nat → Nat → Int) (n : Nat) (intMax : Int)

/-- The scan of column `j`. -/
def scanColumn (w : Work) (i0 j0 j : Nat) (s : Scan) : Scan :=
  if w.used j then s else
    let reducedCost := cost (i0 - 1) (j - 1) - w.u i0 - w.v j
    let s := if reducedCost < s.minv j then
      { s with minv := Function.update s.minv j reducedCost, way := Function.update s.way j j0 }
        else s
    if s.minv j < s.delta then { s with delta := s.minv j, j1 := j } else s

/-- `for (j = 1; j <= n; j++)` -/
def scan (w : Work) (j0 : Nat) : Scan :=
  loop n (fun j => scanColumn cost w (w.p j0) j0 (j + 1)) ⟨w.minv, w.way, intMax, 0⟩

/-- The update of column `j` by `delta`. -/
def shiftColumn (delta : Int) (j : Nat) (w : Work) : Work :=
  if w.used j then
    { w with
      u := Function.update w.u (w.p j) (w.u (w.p j) + delta)
      v := Function.update w.v j (w.v j - delta) }
  else if j ≠ 0 then { w with minv := Function.update w.minv j (w.minv j - delta) }
  else w

/-- `for (j = 0; j <= n; j++)` -/
def shift (delta : Int) (w : Work) : Work := loop (n + 1) (shiftColumn delta) w

/-- One turn of the search from column `j0`, and the next column. -/
def turn (w : Work) (j0 : Nat) : Work × Nat :=
  let w := { w with used := Function.update w.used j0 true }
  let s := scan cost n intMax w j0
  (shift n s.delta { w with minv := s.minv, way := s.way }, s.j1)

/-- `do .. while (p[j0])` -/
def search : Nat → Work → Nat → Work × Nat
  | 0, w, j0 => (w, j0)
  | fuel + 1, w, j0 =>
    let (w, j1) := turn cost n intMax w j0
    if w.p j1 ≠ 0 then search fuel w j1 else (w, j1)

/-- `do .. while (j0)` -/
def augment : Nat → Work → Nat → Work
  | 0, w, _ => w
  | fuel + 1, w, j0 =>
    let j1 := w.way j0
    let w := { w with p := Function.update w.p j0 (w.p j1) }
    if j1 ≠ 0 then augment fuel w j1 else w

/-- The insertion of row `i`. -/
def insertRow (i : Nat) (w : Work) : Work :=
  let w := { w with p := Function.update w.p 0 i, minv := fun _ => intMax, used := fun _ => false }
  let (w, j0) := search cost n intMax (n + 1) w 0
  augment (n + 1) w j0

/-- `for (i = 1; i <= n; i++)` -/
def solve (w : Work) : Work := loop n (fun i => insertRow cost n intMax (i + 1)) w

end
end Sp11Touch.Hungarian
