import Mathlib
import Swatch.Proofs.HexPresets
import Swatch.Proofs.SettingsDefaults
import Swatch.Proofs.SettingsUse

/-! Templates that spell a preset out. Presets and templates come to their texts by
different ways, the ones through a form for each style and the others through
expansions with a width. Both ways lead to one text on every color, also where a
channel is written with a single digit. -/
namespace Swatch.PresetTemplates
open HexPresets SettingsCheck SettingsDefaults SettingsUse

variable {name text : Text} {data : Mapping}

/-- The digits of a byte in decimal. -/
def decimalDigits (byte : UInt8) : Text := Nat.toDigits 10 byte.toNat

/-- The two hexadecimal digits of a byte, of which the first may be a zero. -/
def hexPair (base : Base) (byte : UInt8) : Text :=
  [base.digitChar (byte.toNat / 16), base.digitChar (byte.toNat % 16)]

def hexDigits (base : Base) (s : Sample) : Text :=
  '#' :: (hexPair base s.red ++ hexPair base s.green ++ hexPair base s.blue)

def separated (separator : Text) (s : Sample) : Text :=
  decimalDigits s.red ++ separator ++ decimalDigits s.green ++ separator ++ decimalDigits s.blue

def enclosed (channels : Text) : Text := "rgb(".toList ++ channels ++ ")".toList

/-- A color in a style, digit by digit. -/
def written : PresetStyle → Sample → Text
  | .lowerHex, s => hexDigits .lowerHex s
  | .upperHex, s => hexDigits .upperHex s
  | .plain, s => separated ";".toList s
  | .rgb, s => enclosed (separated ", ".toList s)

/-- A template does what the full form of a named preset does, and both write all
digits that there are to write. -/
def Duplicates (t : Template) (preset : Text) : Prop :=
  ∃ style, Preset.ofName preset = .ok ⟨style, .full⟩ ∧
    ∀ s, t.render s = Preset.render ⟨style, .full⟩ s ∧ t.render s = written style s

/-- The names of the built-in templates, each with that of a preset. -/
def counterparts : List (Text × Text) := [
  ("css".toList, "rgb".toList), ("ansi".toList, "plain".toList),
  ("hex-upper".toList, "HEX".toList)]

/-- A document gives no text of its own to the template of a name. -/
def Leaves (data : Mapping) (name : Text) : Prop :=
  ∀ entries, given data "templates" = .mapping entries →
    Mapping.get? entries (.text name) = none

def hexPart (base : Base) (channel : Channel) : Node :=
  .expansion ⟨channel, base, some ⟨'0', 2, by decide⟩⟩

def decimalPart (channel : Channel) : Node := .expansion ⟨channel, .decimal, none⟩

def hexParts (base : Base) : List Node :=
  [.literal "#".toList, hexPart base .red, hexPart base .green, hexPart base .blue]

def separatedParts (separator : Text) : List Node :=
  [decimalPart .red, .literal separator, decimalPart .green, .literal separator, decimalPart .blue]

/-- The template for a style. -/
def spelledOut : PresetStyle → Template
  | .lowerHex => ⟨hexParts .lowerHex, "#%\x7b02hr\x7d%\x7b02hg\x7d%\x7b02hb\x7d".toList⟩
  | .upperHex => ⟨hexParts .upperHex, "#%\x7b02Hr\x7d%\x7b02Hg\x7d%\x7b02Hb\x7d".toList⟩
  | .plain => ⟨separatedParts ";".toList, "%\x7br\x7d;%\x7bg\x7d;%\x7bb\x7d".toList⟩
  | .rgb => ⟨.literal "rgb(".toList :: (separatedParts ", ".toList ++ [.literal ")".toList]),
      "rgb(%\x7br\x7d, %\x7bg\x7d, %\x7bb\x7d)".toList⟩

theorem digitChar_decimal {d : Nat} (small : d < 10) :
    Base.decimal.digitChar d = d.digitChar := by
  revert d
  decide

private theorem digitsOnto_decimal (n : Nat) (ds : List Nat) :
    (Numeral.digitsOnto 10 n ds).map Base.decimal.digitChar =
      Nat.toDigits 10 n ++ ds.map Base.decimal.digitChar := by
  fun_induction Numeral.digitsOnto 10 n ds with
  | case1 n ds small =>
    have less : n < 10 := by omega
    rw [Nat.toDigits_of_lt_base less, List.map_cons, digitChar_decimal less,
      List.singleton_append]
  | case2 n ds large ih =>
    have last : n % 10 < 10 := Nat.mod_lt n (by decide)
    have more : Nat.toDigits 10 n = Nat.toDigits 10 (n / 10) ++ [(n % 10).digitChar] :=
      Nat.toDigits_of_base_le (by decide) (by omega)
    rw [ih, more, List.map_cons, digitChar_decimal last, List.append_assoc, List.singleton_append]

/-- A numeral in decimal is what the standard library writes for the number. -/
theorem numeral_decimal (n : Nat) : Base.decimal.numeral n = Nat.toDigits 10 n := by
  rw [Base.numeral, Numeral.digits, Base.radix, digitsOnto_decimal, List.map_nil, List.append_nil]

theorem render_hexPart {base : Base} (hex : base.radix = 16) (channel : Channel) (s : Sample) :
    (hexPart base channel).render s = hexPair base (s.channel channel) :=
  padded_byte hex (UInt8.toNat_lt _)

theorem render_decimalPart (channel : Channel) (s : Sample) :
    (decimalPart channel).render s = decimalDigits (s.channel channel) :=
  numeral_decimal _

theorem render_hexParts {base : Base} (hex : base.radix = 16) (s : Sample) :
    (hexParts base).flatMap (fun node => node.render s) = hexDigits base s := by
  simp only [hexParts, List.flatMap_cons, List.flatMap_nil, render_hexPart hex]
  rfl

theorem render_separatedParts (separator : Text) (s : Sample) :
    (separatedParts separator).flatMap (fun node => node.render s) = separated separator s := by
  simp only [separatedParts, List.flatMap_cons, List.flatMap_nil, render_decimalPart, separated,
    List.append_assoc, List.append_nil]
  rfl

theorem render_enclosed (opening closing : Text) (nodes : List Node) (s : Sample) :
    (.literal opening :: (nodes ++ [.literal closing])).flatMap (fun node => node.render s) =
      opening ++ nodes.flatMap (fun node => node.render s) ++ closing := by
  simp [Node.render]

theorem decimalChannels_eq (separator : String) (s : Sample) :
    Preset.decimalChannels separator s = separated separator.toList s := by
  simp only [Preset.decimalChannels, numeral_decimal, separated, decimalDigits, Text.joined]
  simp [List.intercalate]

/-- The template of a style writes the digits. -/
theorem render_spelledOut (style : PresetStyle) (s : Sample) :
    (spelledOut style).render s = written style s := by
  cases style with
  | lowerHex => exact render_hexParts rfl s
  | upperHex => exact render_hexParts rfl s
  | plain => exact render_separatedParts _ s
  | rgb =>
    have decimals := congrArg enclosed (render_separatedParts ", ".toList s)
    exact (render_enclosed _ _ (separatedParts _) s).trans decimals

/-- The full form of a preset writes them too. -/
theorem render_full (style : PresetStyle) (s : Sample) :
    Preset.render ⟨style, .full⟩ s = written style s := by
  cases style with
  | lowerHex => exact hexText_full rfl s
  | upperHex => exact hexText_full rfl s
  | plain => exact decimalChannels_eq _ s
  | rgb => exact congrArg enclosed (decimalChannels_eq ", " s)

theorem duplicates_spelledOut {style : PresetStyle}
    (known : Preset.ofName name = .ok ⟨style, .full⟩) : Duplicates (spelledOut style) name :=
  ⟨style, known, fun s =>
    ⟨(render_spelledOut style s).trans (render_full style s).symm, render_spelledOut style s⟩⟩

private theorem parse_lowerHex :
    Template.parse "#%\x7b02hr\x7d%\x7b02hg\x7d%\x7b02hb\x7d".toList =
      .ok (spelledOut .lowerHex) := by
  cbv

private theorem parse_upperHex :
    Template.parse "#%\x7b02Hr\x7d%\x7b02Hg\x7d%\x7b02Hb\x7d".toList =
      .ok (spelledOut .upperHex) := by
  cbv

private theorem parse_plain :
    Template.parse "%\x7br\x7d;%\x7bg\x7d;%\x7bb\x7d".toList = .ok (spelledOut .plain) := by
  cbv

private theorem parse_rgb :
    Template.parse "rgb(%\x7br\x7d, %\x7bg\x7d, %\x7bb\x7d)".toList = .ok (spelledOut .rgb) := by
  cbv

theorem duplicates_counterpart {entry : Text × Text} (member : entry ∈ counterparts) :
    ∃ text t, builtinTemplates.lookup entry.1 = some text ∧ Template.parse text = .ok t ∧
      Duplicates t entry.2 := by
  simp only [counterparts, List.mem_cons, List.not_mem_nil, or_false] at member
  rcases member with rfl | rfl | rfl
  · exact ⟨_, _, rfl, parse_rgb, duplicates_spelledOut rfl⟩
  · exact ⟨_, _, rfl, parse_plain, duplicates_spelledOut rfl⟩
  · exact ⟨_, _, rfl, parse_upperHex, duplicates_spelledOut rfl⟩

/-- Settings use the built-in template of a name that a document leaves. -/
theorem formatter_builtin {source : Text} {built : Settings} {t : Template}
    (json : JsonLike (.mapping data)) (ok : Settings.build source data = .ok built)
    (leaves : Leaves data name) (known : builtinTemplates.lookup name = some text)
    (parsed : Template.parse text = .ok t) : built.formatter (some name) = .ok (.template t) := by
  have sound := sound_of_obtained (.built ok)
  obtain ⟨plain, checked, rfl⟩ := (build_iff json).mp ok
  have templates := templates_of_check json checked
  have distinct : (plain.templates.map Prod.fst).Nodup :=
    names_nodup (templates ▸ jsonLike_given json "templates")
  have absent : plain.templates.lookup name = none := by
    simpa only [get?_textMapping, Option.map_eq_none_iff] using leaves _ templates
  have found : (withBuiltin plain).templates.lookup name = some text := by
    rw [withBuiltin, lookup_overlaid (by decide) distinct, absent, known]
    rfl
  obtain ⟨same, sameParsed, formatter⟩ := formatter_named sound found
  obtain rfl : same = t := Except.ok.inj (sameParsed.symm.trans parsed)
  exact formatter

/-- The built-in templates do on every color what the presets of their
counterparts do, and so does a template for the preset that is used by default.
Where a document does not replace such a template, settings render with it. -/
theorem builtin_templates_agree :
    (Settings.builtin.field? "templates" = some (.mapping Settings.builtinTemplates) ∧
      Settings.builtinTemplates.keys = counterparts.map fun entry => .text entry.1) ∧
    (∀ entry ∈ counterparts, ∃ text t,
      Settings.builtinTemplates.get? (.text entry.1) = some (.text text) ∧
      Template.parse text = .ok t ∧ Duplicates t entry.2) ∧
    (∃ t, Template.parse "#%\x7b02hr\x7d%\x7b02hg\x7d%\x7b02hb\x7d".toList = .ok t ∧
      Duplicates t "hex".toList) ∧
    ∀ source data built, JsonLike (.mapping data) → Settings.build source data = .ok built →
      ∀ entry ∈ counterparts, Leaves data entry.1 →
        ∃ t, built.formatter (some entry.1) = .ok (.template t) ∧ Duplicates t entry.2 := by
  refine ⟨⟨rfl, by decide⟩, ?_, ⟨_, parse_lowerHex, duplicates_spelledOut rfl⟩, ?_⟩
  · intro entry member
    obtain ⟨text, t, known, parsed, duplicates⟩ := duplicates_counterpart member
    refine ⟨text, t, ?_, parsed, duplicates⟩
    have stored : (textMapping builtinTemplates).get? (.text entry.1) = some (.text text) := by
      rw [get?_textMapping, known]
      rfl
    exact stored
  · intro source data built json ok entry member leaves
    obtain ⟨text, t, known, parsed, duplicates⟩ := duplicates_counterpart member
    exact ⟨t, formatter_builtin json ok leaves known parsed, duplicates⟩

private def ownAnsi : List (Text × Text) := [("ansi".toList, "[%\x7br\x7d]".toList)]

/-- A document that replaces one of the three templates. -/
def brackets : Mapping := [sectionEntry "templates" (textMapping ownAnsi)]

theorem builtin_templates_agree_brackets : JsonLike (.mapping brackets) ∧
    Leaves brackets "css".toList ∧
    ∃ built t, Settings.build "own".toList brackets = .ok built ∧
      built.formatter (some "css".toList) = .ok (.template t) ∧
      t.render (.solid 7 0 255) = "rgb(7, 0, 255)".toList := by
  have ansiJson : JsonLike (.mapping (textMapping ownAnsi)) := jsonLike_textMapping (by decide)
  have json : JsonLike (.mapping brackets) :=
    .mapping (by decide) (by simp [Mapping.keys, brackets, sectionEntry])
      (List.forall_mem_singleton.mpr ansiJson)
  have leaves : Leaves brackets "css".toList := by
    intro entries shape
    cases shape
    decide
  have checked : Settings.check brackets = .ok { templates := ownAnsi } := by cbv
  have ok : Settings.build "own".toList brackets = .ok (withBuiltin { templates := ownAnsi }) :=
    (build_iff json).mpr ⟨_, checked, rfl⟩
  obtain ⟨t, formatter, style, known, agree⟩ := builtin_templates_agree.2.2.2 "own".toList
    brackets _ json ok _ (List.mem_cons_self ..) leaves
  cases known
  exact ⟨json, leaves, _, t, ok, formatter, (agree _).2⟩

end Swatch.PresetTemplates
