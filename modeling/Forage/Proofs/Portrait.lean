import Forage.Picture
import Forage.Proofs.Fallible
import Forage.Proofs.Sound

/-!
# Portraits

A picture can be painted in coats: bare ground first, then the food, the walls and the
foragers, cell after cell and each coat over those before it. It is the picture in which
every cell has the shade of the topmost coat that reaches it, so the order of the cells
within a coat does not matter. Of a world that can be reached every coat lies on the
grid, and its picture shows all that is there and nothing else.
-/

namespace Forage

namespace Picture

variable {scene : Scene} {shade : Shade} {before : Cell → Shade}

/-- The picture that gives each of its cells the shade that a rule says. -/
def drawn (scene : Scene) (rule : Cell → Shade) : Picture :=
  (List.range scene.height.toNat).map fun (y : Nat) =>
    (List.range scene.width.toNat).map fun (x : Nat) => rule ⟨x, y⟩

/-- A picture with a new shade at one of its cells. -/
def touched (picture : Picture) (shade : Shade) (place : Cell) : Picture :=
  picture.modify place.y.toNat fun row => row.set place.x.toNat shade

/-- One coat of paint, put on cell after cell. -/
def coated (scene : Scene) (shade : Shade) (cells : List Cell) (picture : Picture) :
    Except Fault Picture :=
  cells.foldlM (fun picture cell => return picture.touched shade (← target scene cell)) picture

/-- The picture of a scene, painted coat over coat. -/
def painted (scene : Scene) (food walls foragers : List Cell) : Except Fault Picture := do
  checkExtents scene.width scene.height
  let fed ← coated scene .food food (drawn scene fun _ => .bare)
  let walled ← coated scene .wall walls fed
  coated scene .forager foragers walled

/-- The rule for the shades of the cells after some of them have been painted over. -/
def above (shade : Shade) (places : CellSet) (before : Cell → Shade) (cell : Cell) : Shade :=
  if places.contains cell then shade else before cell

theorem above_empty : above shade ∅ before = before := by
  funext cell
  simp [above]

theorem above_insert {places : CellSet} {place : Cell} :
    above shade (places.insert place) before =
      Function.update (above shade places before) place shade := by
  funext cell
  by_cases same : cell = place
  · simp [above, same]
  · simp [above, same, Ne.symm same]

theorem touched_drawn {place : Cell} (right : 0 ≤ place.x) (up : 0 ≤ place.y) :
    touched (drawn scene before) shade place =
      drawn scene (Function.update before place shade) := by
  have here (x y : Nat) : (⟨x, y⟩ : Cell) = place ↔ place.x.toNat = x ∧ place.y.toNat = y := by
    rw [Cell.mk.injEq]
    omega
  apply List.ext_getElem
  · simp [touched, drawn]
  · intro y _ _
    simp only [touched, drawn, List.getElem_modify, List.getElem_map, List.getElem_range,
      Function.update_apply, here]
    split
    · next row =>
        apply List.ext_getElem
        · simp
        · intro x _ _
          simp [List.getElem_set, row]
    · next other => simp [other]

theorem nonneg_of_target {cell place : Cell} (reached : target scene cell = .ok place) :
    0 ≤ place.x ∧ 0 ≤ place.y := by
  unfold target at reached
  split at reached
  · obtain rfl := Except.ok.inj reached
    simp
  · simp at reached

/-- A coat gives the cells that it reaches its shade, and the others keep theirs. -/
theorem coated_drawn (cells : List Cell) :
    coated scene shade cells (drawn scene before) = do
      let places ← targets scene cells
      return drawn scene (above shade places before) := by
  have further (places : CellSet) :
      coated scene shade cells (drawn scene (above shade places before)) = do
        let places ← cells.foldlM
          (fun (places : CellSet) cell => return places.insert (← target scene cell)) places
        return drawn scene (above shade places before) := by
    unfold coated
    induction cells generalizing places with
    | nil => rfl
    | cons cell cells inductionHypothesis =>
        rw [List.foldlM_cons, List.foldlM_cons]
        cases reached : target scene cell with
        | error fault => rfl
        | ok place =>
            obtain ⟨right, up⟩ := nonneg_of_target reached
            simp only [bind, Except.bind, pure, Except.pure] at inductionHypothesis ⊢
            rw [touched_drawn right up, ← above_insert]
            exact inductionHypothesis (places.insert place)
  simpa only [above_empty, targets] using further ∅

/-- What is painted coat over coat is the picture that says of each cell what is on top of it. -/
theorem painted_eq (food walls foragers : List Cell) :
    painted scene food walls foragers = do
      checkExtents scene.width scene.height
      let food ← targets scene food
      let walls ← targets scene walls
      let foragers ← targets scene foragers
      return drawn scene (shadeAt food walls foragers) := by
  simp only [painted, coated_drawn, bind_assoc, pure_bind]
  rfl

theorem painted_eq_ofScene :
    painted scene scene.food.toList scene.walls.toList (scene.sightings.map Sighting.cell) =
      ofScene scene := by
  rw [painted_eq]
  rfl

theorem checkExtents_of_small {width height : Int} (narrow : 1 ≤ width ∧ width ≤ 512)
    (low : 1 ≤ height ∧ height ≤ 512) : checkExtents width height = .ok () := by
  have far : extentLimit = 0x8000000000000000 := rfl
  have many : sizeLimit = 0x1000000000000000 := rfl
  have room : roomLimit = 0x100000000 := rfl
  have near {extent : Int} (held : 1 ≤ extent ∧ extent ≤ 512) :
      (extent < -extentLimit || extentLimit ≤ extent) = false := by
    rw [Bool.or_eq_false_iff, decide_eq_false_iff_not, decide_eq_false_iff_not]
    omega
  have area : height * width ≤ 512 * 512 := Int.mul_le_mul low.2 narrow.2 (by omega) (by omega)
  simp only [checkExtents, near low, near narrow, Bool.or_self, Bool.false_eq_true, if_false]
  rw [max_eq_left low.1, if_neg (by omega), if_neg (by omega), if_neg (by omega),
    if_neg (by omega), if_neg (by omega)]

/-- A cell within the extents of a scene. -/
def Inside (scene : Scene) (cell : Cell) : Prop :=
  (0 ≤ cell.x ∧ cell.x < scene.width) ∧ 0 ≤ cell.y ∧ cell.y < scene.height

theorem target_of_inside {cell : Cell} (inside : Inside scene cell) :
    target scene cell = .ok cell := by
  obtain ⟨⟨right, column⟩, up, row⟩ := inside
  simp [target, Ordinal.place?, right, column, up, row]

/-- Cells within the extents are all drawn where they are, however they are listed. -/
theorem targets_of_inside {cells : List Cell} {places : CellSet}
    (inside : ∀ cell ∈ cells, Inside scene cell) (same : ∀ cell, cell ∈ cells ↔ cell ∈ places) :
    targets scene cells = .ok places := by
  have further (start : CellSet) : ∃ reached : CellSet,
      cells.foldlM (fun (places : CellSet) cell => return places.insert (← target scene cell))
          start = .ok reached ∧
        ∀ cell, cell ∈ reached ↔ cell ∈ start ∨ cell ∈ cells := by
    clear same
    induction cells generalizing start with
    | nil => exact ⟨start, rfl, by simp⟩
    | cons first cells inductionHypothesis =>
        obtain ⟨here, others⟩ := List.forall_mem_cons.mp inside
        obtain ⟨reached, done, members⟩ := inductionHypothesis others (start.insert first)
        refine ⟨reached, ?_, ?_⟩
        · rw [List.foldlM_cons, target_of_inside here]
          exact done
        · intro cell
          rw [members, Std.ExtTreeSet.mem_insert, Std.LawfulEqCmp.compare_eq_iff_eq,
            List.mem_cons, @eq_comm _ first cell, or_assoc]
          exact or_left_comm
  obtain ⟨reached, done, members⟩ := further ∅
  have : reached = places := by
    apply Std.ExtTreeSet.ext_mem
    intro cell
    rw [members, ← same]
    simp
  exact this ▸ done

/-- The cells of a picture, row after row. -/
def grid (scene : Scene) : List Cell :=
  (List.range scene.height.toNat).flatMap fun (y : Nat) =>
    (List.range scene.width.toNat).map fun (x : Nat) => ⟨x, y⟩

theorem mem_grid {cell : Cell} : cell ∈ grid scene ↔ Inside scene cell := by
  simp only [grid, List.mem_flatMap, List.mem_map, List.mem_range]
  constructor
  · rintro ⟨y, row, x, column, rfl⟩
    simp only [Inside]
    omega
  · rintro ⟨⟨right, column⟩, up, row⟩
    refine ⟨cell.y.toNat, by omega, cell.x.toNat, by omega, ?_⟩
    rw [Int.toNat_of_nonneg right, Int.toNat_of_nonneg up]

theorem nodup_grid : (grid scene).Nodup := by
  apply List.nodup_flatMap.mpr
  constructor
  · intro y _
    apply List.nodup_range.map
    intro first second same
    simpa using same
  · apply List.nodup_range.imp
    intro first second apart cell
    simp only [List.mem_map]
    rintro ⟨x, -, rfl⟩ ⟨other, -, same⟩
    simp only [Cell.mk.injEq, Int.ofNat_inj] at same
    exact apart same.2.symm

theorem codes_drawn (rule : Cell → Shade) :
    (drawn scene rule).codes =
      (List.range scene.height.toNat).map fun (y : Nat) =>
        (List.range scene.width.toNat).map fun (x : Nat) => (rule ⟨x, y⟩).code := by
  simp [codes, drawn, Function.comp_def]

theorem flatten_codes_drawn (rule : Cell → Shade) :
    (drawn scene rule).codes.flatten = (grid scene).map fun cell => (rule cell).code := by
  rw [codes_drawn, grid, List.flatMap, List.map_flatten, List.map_map]
  simp [Function.comp_def]

end Picture

namespace World

variable {G : Type} {world : World G}

/-- The code of what is on top of a cell: a forager, else a wall, else food, else nothing. -/
def codeAt (world : World G) (cell : Cell) : Nat :=
  if ∃ forager ∈ world.foragers, forager.position = cell then 3
  else if cell ∈ world.ground.walls then 2
  else if cell ∈ world.ground.food then 1
  else 0

/-- A picture shows a world: it has its extents, and on each cell what is on top there. -/
structure Shown (world : World G) (picture : Picture) : Prop where
  height : (picture.codes.length : Int) = world.config.height
  width : ∀ row ∈ picture.codes, (row.length : Int) = world.config.width
  code : ∀ x y : Nat, world.config.InGrid ⟨x, y⟩ →
    ∃ row, picture.codes[y]? = some row ∧ row[x]? = some (world.codeAt ⟨x, y⟩)
  marks : picture.codes.flatten.count 3 = world.ground.crowd.size
  crowd : world.ground.crowd.size ≤ world.population

/-- The cells on which foragers stand. -/
def stood (world : World G) : CellSet :=
  .ofList (world.foragers.map Forager.position) compare

theorem mem_stood {cell : Cell} :
    cell ∈ world.stood ↔ ∃ forager ∈ world.foragers, forager.position = cell := by
  simp [stood]

/-- The picture in which every cell shows what is on top of it. -/
def portrait (world : World G) : Picture :=
  Picture.drawn world.scene (Picture.shadeAt world.ground.food world.ground.walls world.stood)

theorem code_shadeAt (cell : Cell) :
    (Picture.shadeAt world.ground.food world.ground.walls world.stood cell).code =
      world.codeAt cell := by
  simp only [Picture.shadeAt, codeAt, Std.ExtTreeSet.contains_iff_mem, mem_stood]
  split_ifs <;> rfl

theorem codeAt_eq_three_iff {cell : Cell} :
    world.codeAt cell = 3 ↔ ∃ forager ∈ world.foragers, forager.position = cell := by
  unfold codeAt
  split_ifs with manned <;> simp [manned]

namespace Sound

theorem checkExtents (sound : world.Sound) :
    Picture.checkExtents world.scene.width world.scene.height = .ok () :=
  Picture.checkExtents_of_small (sound.valid.admits .width) (sound.valid.admits .height)

/-- A forager stands on a cell of the ground's count, and only on such cells. -/
theorem mem_crowd_iff (sound : world.Sound) {cell : Cell} :
    cell ∈ world.ground.crowd ↔ ∃ forager ∈ world.foragers, forager.position = cell := by
  have counted : 0 < world.ground.count cell ↔
      ∃ forager ∈ world.foragers, forager.position = cell := by
    rw [sound.counts.count, headcount, List.countP_pos_iff]
    simp
  rw [← counted]
  constructor
  · exact sound.counts.tidy cell
  · intro positive
    by_contra absent
    rw [Ground.count, Std.ExtTreeMap.getD_eq_fallback absent] at positive
    exact absurd positive (lt_irrefl 0)

theorem painted (sound : world.Sound) {food walls foragers : List Cell}
    (fed : ∀ cell, cell ∈ food ↔ cell ∈ world.ground.food)
    (walled : ∀ cell, cell ∈ walls ↔ cell ∈ world.ground.walls)
    (manned : ∀ cell, cell ∈ foragers ↔ ∃ forager ∈ world.foragers, forager.position = cell) :
    Picture.painted world.scene food walls foragers = .ok world.portrait := by
  have stood : ∀ cell, cell ∈ foragers ↔ cell ∈ world.stood := by
    intro cell
    rw [manned, mem_stood]
  have lying : ∀ cell ∈ food, Picture.Inside world.scene cell := by
    intro cell listed
    exact sound.food cell ((fed cell).mp listed)
  have built : ∀ cell ∈ walls, Picture.Inside world.scene cell := by
    intro cell listed
    exact sound.walls cell ((walled cell).mp listed)
  have standing : ∀ cell ∈ foragers, Picture.Inside world.scene cell := by
    intro cell listed
    obtain ⟨forager, among, rfl⟩ := (manned cell).mp listed
    exact (sound.fit forager among).position
  rw [Picture.painted_eq, sound.checkExtents, Picture.targets_of_inside lying fed,
    Picture.targets_of_inside built walled, Picture.targets_of_inside standing stood]
  rfl

theorem marks (sound : world.Sound) :
    world.portrait.codes.flatten.count 3 = world.ground.crowd.size := by
  have manned : ((Picture.grid world.scene).filter fun cell => world.codeAt cell = 3).Perm
      world.ground.crowd.keys := by
    apply (List.perm_ext_iff_of_nodup (Picture.nodup_grid.filter _) Std.ExtTreeMap.nodup_keys).mpr
    intro cell
    rw [List.mem_filter, Picture.mem_grid, decide_eq_true_eq, codeAt_eq_three_iff,
      Std.ExtTreeMap.mem_keys, sound.mem_crowd_iff, and_iff_right_iff_imp]
    rintro ⟨forager, among, rfl⟩
    exact (sound.fit forager among).position
  rw [portrait, Picture.flatten_codes_drawn, ← Std.ExtTreeMap.length_keys, ← manned.length_eq,
    List.count, List.countP_map, List.countP_eq_length_filter]
  congr 1
  apply List.filter_congr
  intro cell _
  rw [Function.comp_apply, code_shadeAt, beq_eq_decide]

theorem crowd_le_population (sound : world.Sound) :
    world.ground.crowd.size ≤ world.population := by
  have listed : world.ground.crowd.keys ⊆ world.foragers.map Forager.position := by
    intro cell key
    exact List.mem_map.mpr (sound.mem_crowd_iff.mp (Std.ExtTreeMap.mem_keys.mp key))
  have short := (List.subperm_of_subset Std.ExtTreeMap.nodup_keys listed).length_le
  rwa [Std.ExtTreeMap.length_keys, List.length_map, sound.enrolled.length_foragers] at short

theorem shown (sound : world.Sound) : world.Shown world.portrait where
  height := by
    rw [portrait, Picture.codes_drawn, List.length_map, List.length_range]
    exact Int.toNat_of_nonneg sound.valid.height_pos.le
  width := by
    intro row listed
    rw [portrait, Picture.codes_drawn] at listed
    obtain ⟨y, -, rfl⟩ := List.mem_map.mp listed
    rw [List.length_map, List.length_range]
    exact Int.toNat_of_nonneg sound.valid.width_pos.le
  code := by
    intro x y inGrid
    obtain ⟨⟨-, column⟩, -, row⟩ := inGrid
    have right : x < world.scene.width.toNat := Int.lt_toNat.mpr column
    have up : y < world.scene.height.toNat := Int.lt_toNat.mpr row
    rw [portrait, Picture.codes_drawn, ← code_shadeAt]
    simp [right, up]
  marks := sound.marks
  crowd := sound.crowd_le_population

end Sound

/--
Every world that can be reached has a picture, and it shows the world. In whatever
order the food, the walls and the foragers come, painting them gives this picture.
-/
theorem Reachable.portrayed [SeededSource G] (reachable : world.Reachable) :
    ∃ picture, Picture.ofScene world.scene = .ok picture ∧ world.Shown picture ∧
      ∀ food walls foragers : List Cell,
        (∀ cell, cell ∈ food ↔ cell ∈ world.ground.food) →
        (∀ cell, cell ∈ walls ↔ cell ∈ world.ground.walls) →
        (∀ cell, cell ∈ foragers ↔ ∃ forager ∈ world.foragers, forager.position = cell) →
        Picture.painted world.scene food walls foragers = .ok picture := by
  have sound := reachable.sound
  refine ⟨world.portrait, ?_, sound.shown, fun food walls foragers => sound.painted⟩
  rw [← Picture.painted_eq_ofScene]
  apply sound.painted
  · exact fun cell => Std.ExtTreeSet.mem_toList
  · exact fun cell => Std.ExtTreeSet.mem_toList
  · intro cell
    simp [scene, Sighting.ofForager]

end World

/-- An example: a field that is wider than it is high. -/
def Config.nook : Config :=
  { Config.default with width := 3, height := 2 }

theorem Config.valid_nook : Config.nook.Valid :=
  ⟨fun parameter => by cases parameter <;> decide, rfl⟩

/-- A forager on a wall, a wall on food, and food in the open. -/
def World.nook : World Twister :=
  [Deed.place ⟨2, 0⟩ .up [.move] 0 none, .addWall ⟨2, 0⟩, .addWall ⟨1, 0⟩, .addFood ⟨1, 0⟩,
    .addFood ⟨0, 1⟩].foldl World.perform (World.empty Config.nook (SeededSource.ofSeed 0))

theorem World.portrayed_nook :
    nook.Reachable ∧ ∃ picture, Picture.ofScene nook.scene = .ok picture ∧
      nook.Shown picture ∧ picture.codes = [[0, 2, 3], [1, 0, 0]] := by
  have reachable : nook.Reachable := (Reachable.empty Config.valid_nook _).foldl _
  obtain ⟨picture, drawn, shown, -⟩ := Reachable.portrayed reachable
  have codes : (Picture.ofScene nook.scene).map Picture.codes = .ok [[0, 2, 3], [1, 0, 0]] := by
    decide +kernel
  rw [drawn] at codes
  exact ⟨reachable, picture, drawn, shown, Except.ok.inj codes⟩

end Forage
