/-!
# Words of style sheets

The words that a style sheet knows.  Of two words that begin alike the longer one comes first.
-/

set_option autoImplicit false

namespace DesignProps.Highlight.Sheet

/-- What the words of a single vendor begin with. -/
def vendors : List String := [
  "-webkit-", "-khtml-", "prince-", "-atsc-", "-moz-", "-rim-", "-wap-", "-ah-", "-hp-", "-ms-", "-ro-", "-tc-",
  "-xv-", "mso-", "-o-"]

/-- Functions of values. -/
def functions : List String := [
  "repeating-linear-gradient", "repeating-radial-gradient", "linear-gradient", "radial-gradient", "cubic-bezier",
  "device-cmyk", "drop-shadow", "perspective", "translate3d", "brightness", "hue-rotate", "saturation", "translateX",
  "translateY", "translateZ", "blackness", "color-mod", "grayscale", "lightness", "translate", "whiteness",
  "contrast", "matrix3d", "rotate3d", "saturate", "counter", "ellipse", "opacity", "polygon", "rotateX", "rotateY",
  "rotateZ", "scale3d", "blenda", "circle", "invert", "matrix", "rotate", "scaleX", "scaleY", "scaleZ", "toggle",
  "blend", "image", "inset", "scale", "sepia", "shade", "skewX", "skewY", "steps", "attr", "blur", "calc", "gray",
  "hsla", "rect", "rgba", "tint", "hsl", "hue", "hwb", "rgb"]

/-- Words that are values. -/
def keywords : List String := [
  "use-glyph-orientation", "decimal-leading-zero", "ruby-base-container", "ruby-text-container",
  "geometricPrecision", "optimizeLegibility", "table-column-group", "table-footer-group", "table-header-group",
  "alternate-reverse", "repeat no-repeat", "all-petite-caps", "extra-condensed", "table-row-group",
  "ultra-condensed", "all-small-caps", "box-decoration", "column-reverse", "extra-expanded", "no-close-quote",
  "semi-condensed", "sideways-right", "ultra-expanded", "double-circle", "no-open-quote", "optimizeSpeed",
  "semi-expanded", "sideways-left", "space-between", "table-caption", "vertical-text", "avoid-column",
  "context-menu", "currentColor", "inline-block", "inline-table", "line-through", "manipulation", "match-parent",
  "space-around", "table-column", "titling-caps", "weight style", "wrap-reverse", "close-quote", "color-dodge",
  "content-box", "crisp-edges", "descendants", "ease-in-out", "inline-flex", "lower-alpha", "lower-greek",
  "lower-latin", "lower-roman", "nesw-resize", "not-allowed", "nwse-resize", "padding-box", "petite-caps",
  "preserve-3d", "row-reverse", "upper-alpha", "upper-latin", "upper-roman", "all-scroll", "avoid-page",
  "border-box", "break-word", "capitalize", "col-resize", "color-burn", "difference", "distribute", "flex-start",
  "from-image", "full-width", "hard-light", "horizontal", "inter-word", "luminosity", "margin-box", "open-quote",
  "row-resize", "sans-serif", "saturation", "scale-down", "small-caps", "soft-light", "step-start", "stroke-box",
  "table-cell", "allow-end", "alternate", "backwards", "condensed", "container", "crosshair", "each-line",
  "ew-resize", "exclusion", "force-end", "list-item", "lowercase", "luminance", "mandatory", "monospace",
  "ne-resize", "no-repeat", "ns-resize", "nw-resize", "pan-right", "pixelated", "proximity", "ruby-base",
  "ruby-text", "se-resize", "sw-resize", "table-row", "underline", "uppercase", "absolute", "armenian", "baseline",
  "collapse", "e-resize", "ease-out", "ellipsis", "expanded", "fill-box", "flex-end", "forwards", "georgian",
  "infinite", "multiply", "n-resize", "overline", "pan-down", "pan-left", "progress", "relative", "repeat-x",
  "repeat-y", "s-resize", "separate", "sideways", "step-end", "triangle", "vertical", "view-box", "w-resize",
  "xx-large", "xx-small", "zoom-out", "balance", "compact", "contain", "cursive", "decimal", "default", "ease-in",
  "fantasy", "hanging", "inherit", "initial", "isolate", "justify", "lighten", "lighter", "no-drop", "objects",
  "oblique", "outside", "overlay", "pointer", "reverse", "running", "smaller", "stretch", "unicase", "upright",
  "visible", "x-large", "x-small", "zoom-in", "always", "bolder", "bottom", "center", "circle", "column", "darken",
  "dashed", "digits", "dotted", "double", "filled", "groove", "hidden", "inline", "inside", "invert", "italic",
  "larger", "linear", "manual", "medium", "normal", "nowrap", "outset", "pan-up", "paused", "repeat", "revert",
  "run-in", "screen", "scroll", "sesame", "smooth", "spaces", "square", "static", "sticky", "strict", "weight",
  "alias", "alpha", "avoid", "below", "blink", "block", "clone", "color", "cover", "edges", "first", "fixed",
  "inset", "large", "local", "loose", "mixed", "pan-x", "pan-y", "ridge", "right", "round", "serif", "slice",
  "small", "solid", "space", "start", "style", "table", "thick", "under", "unset", "auto", "bold", "both", "cell",
  "clip", "copy", "disc", "ease", "fill", "flat", "flex", "flip", "help", "hide", "icon", "last", "left", "move",
  "none", "open", "over", "page", "ruby", "show", "snap", "text", "thin", "wait", "wavy", "wrap", "all", "dot",
  "end", "hue", "ink", "ltr", "off", "row", "rtl", "top", "on", "to"]

/-- More words that are values. -/
def otherKeywords : List String := [
  "cjk-ideographic", "hiragana-iroha", "katakana-iroha", "bidi-override", "small-caption", "center-right",
  "center-left", "message-box", "text-bottom", "continuous", "right-side", "rightwards", "status-bar", "far-right",
  "landscape", "left-side", "leftwards", "spell-out", "far-left", "hiragana", "katakana", "narrower", "portrait",
  "pre-line", "pre-wrap", "text-top", "behind", "faster", "hebrew", "higher", "middle", "silent", "slower", "x-fast",
  "x-high", "x-loud", "x-soft", "above", "aural", "cross", "embed", "level", "lower", "super", "wider", "x-low",
  "crop", "fast", "high", "loud", "once", "slow", "soft", "low", "mix", "pre", "yes"]

/-- Names of colors. -/
def colors : List String := [
  "lightgoldenrodyellow", "mediumspringgreen", "mediumaquamarine", "mediumslateblue", "mediumturquoise",
  "mediumvioletred", "blanchedalmond", "cornflowerblue", "darkolivegreen", "lightslategray", "lightslategrey",
  "lightsteelblue", "mediumseagreen", "darkgoldenrod", "darkslateblue", "darkslategray", "darkslategrey",
  "darkturquoise", "lavenderblush", "lightseagreen", "palegoldenrod", "paleturquoise", "palevioletred",
  "rebeccapurple", "antiquewhite", "darkseagreen", "lemonchiffon", "lightskyblue", "mediumorchid", "mediumpurple",
  "midnightblue", "darkmagenta", "deepskyblue", "floralwhite", "forestgreen", "greenyellow", "lightsalmon",
  "lightyellow", "navajowhite", "saddlebrown", "springgreen", "transparent", "yellowgreen", "aquamarine",
  "blueviolet", "chartreuse", "darkorange", "darkorchid", "darksalmon", "darkviolet", "dodgerblue", "ghostwhite",
  "lightcoral", "lightgreen", "mediumblue", "papayawhip", "powderblue", "sandybrown", "whitesmoke", "aliceblue",
  "burlywood", "cadetblue", "chocolate", "darkgreen", "darkkhaki", "firebrick", "gainsboro", "goldenrod",
  "indianred", "lawngreen", "lightblue", "lightcyan", "lightgray", "lightgrey", "lightpink", "limegreen",
  "mintcream", "mistyrose", "olivedrab", "orangered", "palegreen", "peachpuff", "rosybrown", "royalblue",
  "slateblue", "slategray", "slategrey", "steelblue", "turquoise", "cornsilk", "darkblue", "darkcyan", "darkgray",
  "darkgrey", "deeppink", "honeydew", "lavender", "moccasin", "seagreen", "seashell", "crimson", "darkred",
  "dimgray", "dimgrey", "fuchsia", "hotpink", "magenta", "oldlace", "skyblue", "thistle", "bisque", "indigo",
  "maroon", "orange", "orchid", "purple", "salmon", "sienna", "silver", "tomato", "violet", "yellow", "azure",
  "beige", "black", "brown", "coral", "green", "ivory", "khaki", "linen", "olive", "wheat", "white", "aqua", "blue",
  "cyan", "gold", "gray", "grey", "lime", "navy", "peru", "pink", "plum", "snow", "teal", "red", "tan"]

/-- Units of numbers. -/
def units : List String := [
  "dpcm", "dppx", "grad", "turn", "vmax", "vmin", "deg", "dpi", "kHz", "rad", "rem", "Hz", "ch", "cm", "em", "ex",
  "in", "mm", "ms", "pc", "pt", "px", "vh", "vw", "q", "s"]

end DesignProps.Highlight.Sheet
