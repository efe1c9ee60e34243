import TypedChannel.Text.CharRanges
/-!
# TypedChannel.Text.Ligature

The letters that some scripts write as one with a neighbour, and the marks that
may stand between them.
-/

namespace TypedChannel.Text

/-- The Arabic letters of the joining group Alef. -/
def alefs : CharRanges :=
  #[(0x622, 0x623), (0x625, 0x625), (0x627, 0x627), (0x671, 0x673), (0x675, 0x675),
    (0x773, 0x774), (0x870, 0x882)]

/-- The Arabic letters of the joining group Lam. -/
def lams : CharRanges :=
  #[(0x644, 0x644), (0x6b5, 0x6b8), (0x76a, 0x76a), (0x8a6, 0x8a6), (0x8c7, 0x8c7)]

/-- The Tifinagh letters that a joiner writes as one. -/
def tifinaghConsonants : CharRanges := #[(0x2d31, 0x2d65), (0x2d6f, 0x2d6f)]

/-- The Khmer letters that the sign Coeng writes below the letter before them. -/
def khmerSubscripts : CharRanges :=
  #[(0x1780, 0x1782), (0x1784, 0x1787), (0x1789, 0x178c), (0x178e, 0x1793), (0x1795, 0x1798),
    (0x179b, 0x179d), (0x17a0, 0x17a0), (0x17a2, 0x17a2), (0x17a7, 0x17a7), (0x17ab, 0x17ac),
    (0x17af, 0x17af)]

/-- The Lisu tone letters that a tone letter may precede in the column of one. -/
def lisuTones : CharRanges := #[(0xa4fc, 0xa4fd)]

/-- The Lisu tone letters that share a column with one of `lisuTones` behind them. -/
def lisuFirstTones : CharRanges := #[(0xa4f8, 0xa4fb)]

/-- The combining marks that are never seen. They do not part letters. -/
def unseenMarks : CharRanges :=
  #[(0x34f, 0x34f), (0x17b4, 0x17b5), (0x180b, 0x180d), (0x180f, 0x180f), (0xfe00, 0xfe0f),
    (0xe0100, 0xe01ef)]

end TypedChannel.Text
