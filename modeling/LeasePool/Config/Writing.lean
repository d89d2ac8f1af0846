import LeasePool.Config.Settings

/-!
The text of a configuration file that holds given settings, with a comment for each.
-/
namespace LeasePool.Settings

/-- The lines of the file. A missing purpose or creator is left blank, a missing timeout is 0. -/
def lines (s : Settings) : List String :=
  ["[pool]",
   "; Pool key. The coordinator id is \"resource-pool\" + namespace + resource_id",
   "namespace = " ++ s.space,
   "resource_id = " ++ s.resource,
   "; Initial number of slots (at least 1)",
   "size = " ++ s.size.repr,
   "; Record initializer:",
   ";   default - ids like <resource_id>-<index>, no extra metadata",
   ";   custom  - ids like <prefix>:<resource_id>-<index>, with metadata below;",
   ";             shrinking sheds expanded records first",
   "initializer = " ++ s.provisioner.name,
   "; Record id prefix (custom initializer only)",
   "prefix = " ++ s.label,
   "; Metadata recorded on every record (custom initializer only)",
   "purpose = " ++ s.purpose.getD "",
   "created_by = " ++ s.createdBy.getD "",
   "",
   "[lease]",
   "; Maximum time a grant may be held before it is reclaimed automatically",
   "; Supports: ms, s, m, h suffixes (e.g., 30s, 5m, 1h); 0 disables the timeout",
   "timeout = " ++ (s.leaseTimeout.map Duration.format).getD "0",
   "",
   "[coordinator]",
   "; Coordinator inbox capacity (default: 1000)",
   "channel_capacity = " ++ s.capacity.repr,
   "",
   "[logging]",
   "; Log file path (default: ~/.poolkeeper/poolkeeper.log)",
   "file = " ++ s.logFile]

/-- The file's text, every line ended. -/
def render (s : Settings) : String := String.join (s.lines.map (· ++ "\n"))

end LeasePool.Settings
