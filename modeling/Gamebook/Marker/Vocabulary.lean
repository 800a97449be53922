/-!
# Vocabularies

The words by which a story may name a pace, a colour or an effect.  A story that brings no words of
its own has the speeds from slowest to fastest in three steps each, the named colours of style sheets,
and thirteen effects.
-/

namespace Gamebook.Marker

/-- The words for paces that a story has without naming any. -/
def defaultSpeeds : List String := ["fastest", "faster", "fast", "slowest", "slower", "slow"]

/-- The words for effects that a story has without naming any. -/
def defaultEffects : List String :=
  ["shake", "nudge", "bounce", "slide-left", "slide-right", "pulse", "blink", "grow", "pop", "glow",
   "tilt", "wobble", "wave"]

/-- The words for colours that a story has without naming any. -/
def defaultColours : List String :=
  ["aliceblue", "antiquewhite", "aqua", "aquamarine", "azure", "beige", "bisque", "black",
   "blanchedalmond", "blue", "blueviolet", "brown", "burlywood", "cadetblue", "chartreuse",
   "chocolate", "coral", "cornflowerblue", "cornsilk", "crimson", "cyan", "darkblue", "darkcyan",
   "darkgoldenrod", "darkgray", "darkgreen", "darkgrey", "darkkhaki", "darkmagenta",
   "darkolivegreen", "darkorange", "darkorchid", "darkred", "darksalmon", "darkseagreen",
   "darkslateblue", "darkslategray", "darkslategrey", "darkturquoise", "darkviolet", "deeppink",
   "deepskyblue", "dimgray", "dimgrey", "dodgerblue", "firebrick", "floralwhite", "forestgreen",
   "fuchsia", "gainsboro", "ghostwhite", "gold", "goldenrod", "gray", "green", "greenyellow",
   "grey", "honeydew", "hotpink", "indianred", "indigo", "ivory", "khaki", "lavender",
   "lavenderblush", "lawngreen", "lemonchiffon", "lightblue", "lightcoral", "lightcyan",
   "lightgoldenrodyellow", "lightgray", "lightgreen", "lightgrey", "lightpink", "lightsalmon",
   "lightseagreen", "lightskyblue", "lightslategray", "lightslategrey", "lightsteelblue",
   "lightyellow", "lime", "limegreen", "linen", "magenta", "maroon", "mediumaquamarine",
   "mediumblue", "mediumorchid", "mediumpurple", "mediumseagreen", "mediumslateblue",
   "mediumspringgreen", "mediumturquoise", "mediumvioletred", "midnightblue", "mintcream",
   "mistyrose", "moccasin", "navajowhite", "navy", "oldlace", "olive", "olivedrab", "orange",
   "orangered", "orchid", "palegoldenrod", "palegreen", "paleturquoise", "palevioletred",
   "papayawhip", "peachpuff", "peru", "pink", "plum", "powderblue", "purple", "rebeccapurple",
   "red", "rosybrown", "royalblue", "saddlebrown", "salmon", "sandybrown", "seagreen", "seashell",
   "sienna", "silver", "skyblue", "slateblue", "slategray", "slategrey", "snow", "springgreen",
   "steelblue", "tan", "teal", "thistle", "tomato", "turquoise", "violet", "wheat", "white",
   "whitesmoke", "yellow", "yellowgreen"]

/-- The words of a story for each concern that has words. -/
structure Vocabulary where
  /-- The words for colours. -/
  colours : List String := defaultColours
  /-- The words for effects. -/
  effects : List String := defaultEffects
  /-- The words for paces. -/
  speeds : List String := defaultSpeeds
  deriving DecidableEq, Repr, Inhabited

end Gamebook.Marker
