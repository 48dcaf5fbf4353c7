import CanvasScript.Picture.Typeface

/-!
# The coverage of pixels by an outline

The share of each pixel that lies inside an outline is found by accumulation: every edge adds to
the cells it passes, row by row, the signed area to its right; the running sum over the cells is
then the coverage.

* `Grid`: the cells of a box of pixels, with a few spare ones behind them.
* `Grid.addEdge`: one edge; `edgeCells` lists what it adds in one row.
* `Grid.visit`: the coverage of each cell, row by row.
* `Placement`: a glyph at a point; `Placement.box?` and `Placement.grid` are its pixels.
-/

namespace CanvasScript.Picture

open Number

/-- A point in pixels, with `y` growing downwards. -/
structure Point where
  x : Float32
  y : Float32
deriving Inhabited

/-- The cells of a box, row by row. -/
structure Grid where
  width : Nat
  height : Nat
  cells : Array Float32

namespace Grid

/-- The grid in which nothing is covered. -/
def empty (width height : Nat) : Grid :=
  ⟨width, height, Array.replicate (width * height + 4) 0⟩

/-- What an edge from `x` to `x'` within one row adds, `d` being the signed height of its part in
that row, and the row beginning at cell `start`. Cells are numbered from the start of the grid. -/
def edgeCells (start : Int) (x x' d : Float32) : List (Int × Float32) :=
  let (x₀, x₁) := if x < x' then (x, x') else (x', x)
  let floor₀ := x₀.floor
  let first := Single.toInt floor₀
  let ceil₁ := x₁.ceil
  let last := Single.toInt ceil₁
  let i := start + first
  if last ≤ first + 1 then
    let middle := 0.5 * (x + x') - floor₀
    [(i, d - d * middle), (i + 1, d * middle)]
  else
    let s := 1 / (x₁ - x₀)
    let part₀ := x₀ - floor₀
    let a₀ := 0.5 * s * (1 - part₀) * (1 - part₀)
    let part₁ := x₁ - ceil₁ + 1
    let am := 0.5 * s * part₁ * part₁
    let inner :=
      if last = first + 2 then [(i + 1, d * (1 - a₀ - am))]
      else
        let a₁ := s * (1.5 - part₀)
        let a₂ := a₁ + Float32.ofInt (last - first - 3) * s
        (i + 1, d * (a₁ - a₀)) ::
          (List.range (last - first - 3).toNat).map (fun (k : Nat) => (i + 2 + (k : Int), d * s)) ++
          [(start + last - 1, d * (1 - a₂ - am))]
    (i, d * a₀) :: inner ++ [(start + last, d * am)]

/-- Amounts added to cells, up to the first cell that does not exist; whether all of them do. -/
def addCells (cells : Array Float32) : List (Int × Float32) → Array Float32 × Bool
  | [] => (cells, true)
  | (i, v) :: rest =>
    if h : i.toNat < cells.size then
      addCells (cells.set i.toNat (cells[i.toNat] + v)) rest
    else (cells, false)

/-- An edge in the rows `ys`, `x` being where it enters the first of them. A row in which the edge
begins before the grid is left out; so is the rest of one in which it ends behind it, and then the
edge goes on from where it was. -/
def addRows (g : Grid) (upper lower : Point) (slope sign : Float32) :
    Float32 → List Nat → Grid
  | _, [] => g
  | x, y :: ys =>
    let top := Float32.ofNat y
    let dy := Single.lesser (top + 1) lower.y - Single.greater top upper.y
    let x' := x + slope * dy
    let start : Int := y * g.width
    let first := if x < x' then x else x'
    if start + Single.toInt first.floor < 0 then g.addRows upper lower slope sign x ys
    else
      let (cells, done) := addCells g.cells (edgeCells start x x' (dy * sign))
      addRows { g with cells } upper lower slope sign (if done then x' else x) ys

/-- Edges lower than this are taken for level. -/
def level : Float32 := Float32.ofBits 0x34000000

/-- The edge from `p` to `q`. -/
def addEdge (g : Grid) (p q : Point) : Grid :=
  if (p.y - q.y).abs ≤ level then g
  else
    let (sign, upper, lower) : Float32 × Point × Point :=
      if p.y < q.y then (1, p, q) else (-1, q, p)
    let slope := (lower.x - upper.x) / (lower.y - upper.y)
    let first := Single.toNat upper.y
    let last := min g.height (Single.toNat lower.y.ceil)
    let x := if upper.y < 0 then upper.x - upper.y * slope else upper.x
    g.addRows upper lower slope sign x (List.range' first (last - first))

/-- A closed contour, whose edges lead from each point to the next and back to the first. -/
def addContour (g : Grid) (points : List Point) : Grid :=
  match points with
  | [] => g
  | p :: rest =>
    (points.zip (rest ++ [p])).foldl (fun g e => g.addEdge e.1 e.2) g

/-- The cells visited row by row, `f` being given the column, the row and the coverage of each. -/
def visit {σ : Type} (g : Grid) (f : σ → Nat → Nat → Float32 → σ) (s : σ) : σ :=
  ((g.cells.take (g.width * g.height)).foldl
    (fun (acc : Nat × Float32 × σ) v =>
      let (k, sum, s) := acc
      let sum := sum + v
      (k + 1, sum, f s (k % g.width) (k / g.width) sum.abs))
    (0, 0, s)).2.2

end Grid

/-! ## Glyphs -/

/-- A glyph drawn at a scale, its origin at a point. -/
structure Placement where
  glyph : Glyph
  scale : Float32
  origin : Point

/-- A box between two corners, in pixels. -/
structure PixelBox where
  low : Point
  high : Point
deriving Inhabited

/-- The pixels around a placed glyph; a glyph without any extent has none. -/
def Placement.box? (p : Placement) : Option PixelBox :=
  p.glyph.box?.map fun b =>
    let tx := Single.truncate p.origin.x
    let ty := Single.truncate p.origin.y
    let fx := p.origin.x - tx
    let fy := p.origin.y - ty
    { low :=
        ⟨(Float32.ofInt b.left * p.scale + fx).floor + tx,
          (Float32.ofInt b.top * -p.scale + fy).floor + ty⟩
      high :=
        ⟨(Float32.ofInt b.right * p.scale + fx).ceil + tx,
          (Float32.ofInt b.bottom * -p.scale + fy).ceil + ty⟩ }

/-- The grid of a placed glyph over its box. -/
def Placement.grid (p : Placement) (box : PixelBox) : Grid :=
  let dx := p.origin.x - box.low.x
  let dy := p.origin.y - box.low.y
  let place (q : Int × Int) : Point :=
    ⟨Float32.ofInt q.1 * p.scale + dx, Float32.ofInt q.2 * -p.scale + dy⟩
  let g := Grid.empty (Single.toNat (box.high.x - box.low.x))
    (Single.toNat (box.high.y - box.low.y))
  p.glyph.contours.foldl (fun g contour => g.addContour (contour.map place)) g

end CanvasScript.Picture
