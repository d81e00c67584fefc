import RouteTree.Text.Ranges

/-!
# Identifier exceptions

The few code points that Unicode 14 adds to, or takes from, the letters, letter numbers, marks,
digits and connectors an identifier is otherwise made of.
-/

namespace RouteTree.Text

/-- Every letter number (Nl). -/
def letterNumbers : Ranges :=
  [(5870, 5872), (8544, 8578), (8581, 8584), (12295, 12295), (12321, 12329), (12344, 12346),
   (42726, 42735), (65856, 65908), (66369, 66369), (66378, 66378), (66513, 66517), (74752, 74862)]

/-- Every connector (Pc). -/
def connectors : Ranges :=
  [(95, 95), (8255, 8256), (8276, 8276), (65075, 65076), (65101, 65103), (65343, 65343)]

/-- Starts of identifiers that are no letter and no letter number. -/
def extraStarts : Ranges :=
  [(6277, 6278), (8472, 8472), (8494, 8494)]

/-- Letters that start no identifier. -/
def barredStarts : Ranges :=
  [(890, 890), (3635, 3635), (3763, 3763), (11823, 11823), (64606, 64611), (65018, 65019),
   (65136, 65136), (65138, 65138), (65140, 65140), (65142, 65142), (65144, 65144), (65146, 65146),
   (65148, 65148), (65150, 65150), (65438, 65439)]

/-- Identifiers may go on with these too. -/
def extraContinues : Ranges :=
  [(183, 183), (903, 903), (4969, 4977), (6618, 6618), (8472, 8472), (8494, 8494)]

/-- Letters that no identifier goes on with. -/
def barredContinues : Ranges :=
  [(890, 890), (11823, 11823), (64606, 64611), (65018, 65019), (65136, 65136), (65138, 65138),
   (65140, 65140), (65142, 65142), (65144, 65144), (65146, 65146), (65148, 65148), (65150, 65150)]

end RouteTree.Text
