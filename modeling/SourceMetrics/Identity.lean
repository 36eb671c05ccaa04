/-!
# Name and version

The name under which the program is called and by which its files of settings are known, and its
version.
-/

namespace SourceMetrics

def programName : String := "codegauge"

def programVersion : String := "0.1.0"

/-- The file of settings that is made if no other is named. -/
def settingsFile : String := programName ++ ".yaml"

end SourceMetrics
