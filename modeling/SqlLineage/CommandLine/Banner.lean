/-
Module: SqlLineage.CommandLine.Banner
Purpose: How the tool presents itself: its name, its logo, its version, and the legend of the roles.
Main exports: toolName, version, logo, paintedLogo, versionText, legendText
-/
import SqlLineage.Flow.Render

namespace SqlLineage.CommandLine

open Text (paint)

def toolName : String := "sqlflow"

def version : String := "0.1.0"

def description : String := "Turns SQL scripts into ETL lineage flow graphs"

/-- The lines of the logo. -/
def logoLines : List String := [
    "  ███████╗ ██████╗ ██╗     ███████╗██╗      ██████╗ ██╗    ██╗",
    "  ██╔════╝██╔═══██╗██║     ██╔════╝██║     ██╔═══██╗██║    ██║",
    "  ███████╗██║   ██║██║     █████╗  ██║     ██║   ██║██║ █╗ ██║",
    "  ╚════██║██║▄▄ ██║██║     ██╔══╝  ██║     ██║   ██║██║███╗██║",
    "  ███████║╚██████╔╝███████╗██║     ███████╗╚██████╔╝╚███╔███╔╝",
    "  ╚══════╝ ╚══▀▀═╝ ╚══════╝╚═╝     ╚══════╝ ╚═════╝  ╚══╝╚══╝"]

/-- The logo between two line breaks; the last line is blank and stays open. -/
def logo : String := "\n" ++ Flow.lines logoLines ++ "    "

/-- The logo in its colour. -/
def paintedLogo (colours : Bool) : String := paint colours .brightCyan logo

/-- One line with the version. -/
def versionLine : String := Flow.lines [toolName ++ " " ++ version]

/-- The logo, the version, and what the tool is for. -/
def versionText (colours : Bool) : String :=
  Flow.lines [paintedLogo colours, toolName ++ " version " ++ version, description]

/-- The legend of the roles under a heading. -/
def legendText (colours : Bool) : String :=
  Flow.lines [paint colours .bold "Node roles"] ++ Flow.legend colours

end SqlLineage.CommandLine
