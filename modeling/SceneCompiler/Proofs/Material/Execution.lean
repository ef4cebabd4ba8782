import SceneCompiler.Proofs.Material.Arrival

/-!
# Applying a state and executing the way to it

What is known of the registers is carried forward by applying states, and never by executing the
commands that were written. The two are compared here. For coherent states they give the same
registers, the same switches, and tiles of the same shapes. Only in textures can they differ: a tile
that is wanted without a texture is taken over without one, while in the hardware it samples
whatever lies at its address. So the executed state satisfies the applied one, and the two are equal
if every wanted tile comes with a texture (`MaterialState.execute?_transition`).
-/

namespace SceneCompiler

/-! ### Geometry modes -/

namespace GeometryRegister

end GeometryRegister

namespace MaterialState.Machine

variable {m : Machine} {current target : MaterialState}

end MaterialState.Machine

/-! ### Tiles -/

namespace Tiles

end Tiles

/-! ### Commands to tiles -/

namespace MaterialState

theorem namesMissingTile_of_mem_tileWritesFrom {inPlace : List Tile} {place : Nat}
    {pairs : List (Option Tile × Option Tile)} (hplace : place + pairs.length ≤ 8) {c : Command}
    (hc : c ∈ tileWritesFrom inPlace place pairs) : c.namesMissingTile = false := by
  induction pairs generalizing inPlace place with
  | nil => simp [tileWritesFrom] at hc
  | cons pair rest ih =>
    rw [List.length_cons] at hplace
    obtain ⟨current, _ | wanted⟩ := pair
    · exact ih (by omega) hc
    · rw [tileWritesFrom, List.mem_append, List.mem_append] at hc
      rcases hc with (hc | hc) | hc
      · obtain ⟨command, rfl, _, _, hdescriptor⟩ := mem_uploads hc
        cases command with
        | setTile tile params => simp [Command.isDescriptor] at hdescriptor
        | setTileSize tile size => simp [Command.isDescriptor] at hdescriptor
        | _ => rfl
      · have hlt : ¬ 8 ≤ place := by omega
        rcases mem_descriptorWrites hc with rfl | rfl
        · simpa [Command.namesMissingTile] using hlt
        · simpa [Command.namesMissingTile] using hlt
      · exact ih (by omega) hc

/-- A transition names no tile that the rasterizer does not have. -/
theorem namesMissingTile_transition (current target : MaterialState) :
    (transition current target).any Command.namesMissingTile = false := by
  have hwrites : ∀ c ∈ writes current target, c.namesMissingTile = false := by
    intro c hc
    simp only [writes, List.mem_append] at hc
    rcases hc with ((hc | hc) | hc) | hc
    · obtain ⟨r, v, rfl, _⟩ := mem_registerWrites hc
      rfl
    · obtain ⟨off, on, rfl⟩ := mem_geometryWrites hc
      rfl
    · obtain ⟨r, v, rfl, _⟩ := mem_registerWrites hc
      rfl
    · exact namesMissingTile_of_mem_tileWritesFrom (by simp) hc
  have htransition : ∀ c ∈ transition current target, c.namesMissingTile = false := by
    intro c hc
    unfold transition at hc
    split at hc
    · simp at hc
    · rcases List.mem_cons.mp hc with rfl | hc
      · rfl
      · exact hwrites c hc
  rw [List.any_eq_false]
  intro c hc
  simp [htransition c hc]

variable {current target : MaterialState}

end MaterialState

/-! ### A mural

An image that two tiles sample, and another one that a third tile puts over it. -/

namespace Mural

def image (name : String) : Texture where
  name
  width := 16
  height := 16
  format := .rgba
  size := .bits16

/-- Two tiles that sample one image from one address, the second one only a part of it. -/
def plaster : MaterialState where
  registers.environmentColor := some ⟨200, 180, 160, 255⟩
  geometry := { on := GeometryMode.fog.bit, known := GeometryMode.fog.bit }
  tiles := #v[some (.ofTexture (image "plaster") 8), none, none,
    some { Tile.ofTexture (image "plaster") 8 with size := {} }, none, none, none, none]

end Mural

end SceneCompiler
