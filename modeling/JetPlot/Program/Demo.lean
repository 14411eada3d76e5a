/-!
# The demonstration program

Two nested squares, each printed as a segment of its own.
-/

namespace JetPlot.Program

/-- The lines of the demonstration program. -/
def demoLines : List String :=
  ["#0",
   "! **********************************",
   "! PRG to SVG Example",
   "! **********************************",
   "",
   "ptp/ev (X,Y),1.00000,1.00000,gDblRapidSpeed",
   "Start gIntSubBuffer,ShutterOpen;TILL PST(gIntSubBuffer).#RUN = 0",
   "wait 2",
   "MSEG (X,Y),1.00000,1.00000",
   "line (X,Y),1.00000,5.00000",
   "line (X,Y),5.00000,5.00000",
   "line (X,Y),5.00000,1.00000",
   "line (X,Y),1.00000,1.00000",
   "ENDS (X,Y)",
   "till (^X_AST.#MOVE) & (^Y_AST.#MOVE)",
   "Start gIntSubBuffer,ShutterClose;TILL PST(gIntSubBuffer).#RUN = 0",
   "wait 2",
   "",
   "ptp/ev (X,Y),2.00000,2.00000,gDblRapidSpeed",
   "Start gIntSubBuffer,ShutterOpen;TILL PST(gIntSubBuffer).#RUN = 0",
   "wait 2",
   "MSEG (X,Y),2.00000,2.00000",
   "line (X,Y),2.00000,4.00000",
   "line (X,Y),4.00000,4.00000",
   "line (X,Y),4.00000,2.00000",
   "line (X,Y),2.00000,2.00000",
   "ENDS (X,Y)",
   "till (^X_AST.#MOVE) & (^Y_AST.#MOVE)",
   "Start gIntSubBuffer,ShutterClose;TILL PST(gIntSubBuffer).#RUN = 0",
   "wait 2",
   "",
   "STOP"]

/-- The text of the demonstration program. -/
def demo : String := String.join (demoLines.map (· ++ "\n"))

end JetPlot.Program
