import SceneCompiler.Interchange.Registers
import SceneCompiler.Material.State

/-!
# Materials in documents

Textures, tiles and material states. What a state leaves open may be absent from a document and is
null when it is written.
-/

namespace SceneCompiler

open RecordForm (field)

def TexelFormat.names : List (TexelFormat × String) :=
  [(.rgba, "Rgba"), (.yuv, "Yuv"), (.ci, "Ci"), (.ia, "Ia"), (.i, "I")]

def TexelSize.names : List (TexelSize × String) :=
  [(.bits4, "Bits4"), (.bits8, "Bits8"), (.bits16, "Bits16"), (.bits32, "Bits32")]

def Palette.form : Form Palette :=
  (field "name" .text |>.and (field "color_count" .word16)).via
    (fun (name, colorCount) => ⟨name, colorCount⟩) fun p => (p.name, p.colorCount)

def Texture.form : Form Texture :=
  (field "name" .text |>.and (field "width" .natural) |>.and (field "height" .natural)
    |>.and (field "format" (.named TexelFormat.names))
    |>.and (field "size" (.named TexelSize.names))
    |>.and (field "palette" Palette.form.optional)).via
    (fun (((((name, width), height), format), size), palette) =>
      ⟨name, width, height, format, size, palette⟩)
    fun t => (((((t.name, t.width), t.height), t.format), t.size), t.palette)

def TileAxis.form : Form TileAxis :=
  (field "wrap" .switch |>.and (field "mirror" .switch) |>.and (field "mask" .word8)
    |>.and (field "shift" .word8)).via
    (fun (((wrap, mirror), mask), shift) => ⟨wrap, mirror, mask, shift⟩)
    fun axis => (((axis.wrap, axis.mirror), axis.mask), axis.shift)

def TileParams.form : Form TileParams :=
  (field "format" (.named TexelFormat.names) |>.and (field "size" (.named TexelSize.names))
    |>.and (field "line" .word16) |>.and (field "tmem" .word16) |>.and (field "palette" .word8)
    |>.and (field "s" TileAxis.form) |>.and (field "t" TileAxis.form)).via
    (fun ((((((format, size), line), address), palette), s), t) =>
      ⟨format, size, line, address, palette, s, t⟩)
    fun p => ((((((p.format, p.size), p.line), p.address), p.palette), p.s), p.t)

def TileSize.form : Form TileSize :=
  (field "s_offset" .word16 |>.and (field "t_offset" .word16) |>.and (field "s_limit" .word16)
    |>.and (field "t_limit" .word16)).via
    (fun (((sOffset, tOffset), sLimit), tLimit) => ⟨sOffset, tOffset, sLimit, tLimit⟩)
    fun size => (((size.sOffset, size.tOffset), size.sLimit), size.tLimit)

def Tile.form : Form Tile :=
  (field "texture" Texture.form.optional |>.and (field "params" TileParams.form)
    |>.and (field "size" TileSize.form)).via
    (fun ((texture, params), size) => ⟨texture, params, size⟩)
    fun tile => ((tile.texture, tile.params), tile.size)

def Tiles.form : Form Tiles where
  write tiles := Tile.form.optional.list.write tiles.toList
  read? document := do
    let tiles ← Tile.form.optional.list.read? document
    if h : tiles.toArray.size = 8 then return ⟨tiles.toArray, h⟩ else none

def MaterialState.form : Form MaterialState :=
  (field "tiles" (Tiles.form.orElse Tiles.unspecified)
    |>.and (field "texture_state" TextureState.form.optional)
    |>.and (field "geometry_modes" (GeometryRegister.form.orElse {}))
    |>.and (field "other_modes" (Modes.form.orElse {}))
    |>.and (field "combine" CombineCycles.form.optional)
    |>.and (field "render_mode" RenderMode.form.optional)
    |>.and (field "primitive_color" PrimitiveColor.form.optional)
    |>.and (field "env_color" Color.form.optional)
    |>.and (field "fill_color" Color.form.optional)
    |>.and (field "fog_color" Color.form.optional)
    |>.and (field "blend_color" Color.form.optional)).via
    (fun ((((((((((tiles, texture), geometry), modes), combine), renderMode), primitiveColor),
        environmentColor), fillColor), fogColor), blendColor) =>
      { registers :=
          { modes, combine, renderMode, primitiveColor, environmentColor, fillColor, fogColor,
            blendColor, texture }
        geometry
        tiles })
    fun s =>
      let r := s.registers
      ((((((((((s.tiles, r.texture), s.geometry), r.modes), r.combine), r.renderMode),
        r.primitiveColor), r.environmentColor), r.fillColor), r.fogColor), r.blendColor)

end SceneCompiler
