
namespace BlockGraph.Version

def version : String := "0.1.0-dev"

/-- The commit the compiler was built from, empty when not recorded. -/
def commit : String := ""

def buildDate : String := ""

def tool : String := "blockc"

def fingerprint : String := if commit = "" then version else version ++ "+" ++ commit

end BlockGraph.Version
