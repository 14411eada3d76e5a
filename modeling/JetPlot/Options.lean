import JetPlot.Decimal.Style

/-!
# Options

The options of a picture are its size in pixels, the thickness of its lines and
the padding around it. Not all values make sense; `Options.check` finds the first
one that does not.
-/

namespace JetPlot

/-- The options of a picture. -/
structure Options where
  /-- The width of the picture in pixels. -/
  width : UInt32
  /-- The height of the picture in pixels. -/
  height : UInt32
  /-- The thickness of a printed line, in program units. -/
  lineThickness : Float
  /-- The padding on every side of what is drawn, in program units. -/
  padding : Float
  deriving DecidableEq

/-- An option that is out of range. -/
inductive OptionFault
  /-- The picture has no width or no height. -/
  | size
  /-- The line thickness is no positive number. -/
  | lineThickness (value : Float)
  /-- The padding is negative or no number. -/
  | padding (value : Float)
  deriving DecidableEq

namespace OptionFault

/-- The name of the option. -/
def key : OptionFault → String
  | size => "size"
  | lineThickness _ => "line_thickness"
  | padding _ => "padding"

/-- What is wrong with it. -/
def reason : OptionFault → String
  | size => "width and height must be > 0"
  | lineThickness value => "must be a positive number, got " ++ Style.plain.text value
  | padding value => "must be a non-negative number, got " ++ Style.plain.text value

/-- The wording for a value that is out of range. -/
def wording (noun key reason : String) : String :=
  "Invalid " ++ noun ++ " '" ++ key ++ "': " ++ reason

/-- The fault of an option in words. -/
def text (f : OptionFault) : String := wording "option" f.key f.reason

/-- The fault in words if the option comes from a settings file or is about to go
    there. -/
def settingText (f : OptionFault) : String := wording "setting" f.key f.reason

end OptionFault

namespace Options

/-- The options that are used unless others are given. -/
def default : Options := ⟨800, 600, 1, 1⟩

/-- Whether all values of two options are numerically equal; a NaN differs from
    itself. -/
def agree (o p : Options) : Bool :=
  o.width == p.width && o.height == p.height && o.lineThickness == p.lineThickness &&
    o.padding == p.padding

/-- Checks that all values are in range. -/
def check (o : Options) : Except OptionFault Unit :=
  if o.width = 0 ∨ o.height = 0 then .error .size
  else if !o.lineThickness.isFinite || o.lineThickness ≤ 0 then
    .error (.lineThickness o.lineThickness)
  else if !o.padding.isFinite || o.padding < 0 then .error (.padding o.padding)
  else .ok ()

end Options

end JetPlot
