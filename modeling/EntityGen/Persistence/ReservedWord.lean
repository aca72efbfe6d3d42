import EntityGen.Text.Lowercase

/-!
# Reserved words

Words that cannot be the bare name of a table or a column.  They are looked up
without regard to case, by binary search in a sorted list.
-/

namespace EntityGen.ReservedWord

/-- The reserved words, in increasing order. -/
def all : Array String :=
  #[
    "add", "all", "alter", "and", "any", "as", "asc", "authorization", "backup", "begin",
    "between", "break", "browse", "bulk", "by", "cascade", "case", "check", "checkpoint", "close",
    "clustered", "coalesce", "collate", "column", "commit", "compute", "constraint", "contains",
    "containstable", "continue", "convert", "create", "cross", "current", "current_date",
    "current_time", "current_timestamp", "current_user", "cursor", "database", "dbcc",
    "deallocate", "declare", "default", "delete", "deny", "desc", "disk", "distinct",
    "distributed", "double", "drop", "dump", "else", "end", "errlvl", "escape", "except", "exec",
    "execute", "exists", "exit", "external", "fetch", "file", "fillfactor", "for", "foreign",
    "freetext", "freetexttable", "from", "full", "function", "goto", "grant", "group", "having",
    "holdlock", "identity", "identity_insert", "identitycol", "if", "in", "index", "inner",
    "insert", "intersect", "into", "is", "join", "key", "kill", "left", "like", "limit", "lineno",
    "load", "merge", "national", "nocheck", "nonclustered", "not", "null", "nullif", "of", "off",
    "offsets", "on", "open", "opendatasource", "openquery", "openrowset", "openxml", "option",
    "or", "order", "outer", "over", "percent", "pivot", "plan", "precision", "primary", "print",
    "proc", "procedure", "public", "raiserror", "read", "readtext", "reconfigure", "references",
    "replication", "restore", "restrict", "return", "revert", "revoke", "right", "rollback",
    "rowcount", "rowguidcol", "rule", "save", "schema", "securityaudit", "select",
    "semantickeyphrasetable", "semanticsimilaritydetailstable", "semanticsimilaritytable",
    "session_user", "set", "setuser", "shutdown", "some", "statistics", "system_user", "table",
    "tablesample", "textsize", "then", "to", "top", "tran", "transaction", "trigger", "truncate",
    "try_convert", "tsequal", "union", "unique", "unpivot", "update", "updatetext", "use", "user",
    "values", "varying", "view", "waitfor", "when", "where", "while", "with", "within group",
    "writetext"]

/-- Whether a word stands among sorted words, at the places from `low` up to but
not including `high`. -/
def search (words : Array String) (word : String) (low high : Nat) : Bool :=
  if low < high then
    let middle := low + (high - low) / 2
    match words[middle]? with
    | none => false
    | some found =>
      match compare word found with
      | .eq => true
      | .lt => search words word low middle
      | .gt => search words word (middle + 1) high
  else false
termination_by high - low

end ReservedWord

/-- Whether a name is a reserved word when case does not count. -/
def isReserved (name : String) : Bool :=
  ReservedWord.search ReservedWord.all (Text.lowercase name) 0 ReservedWord.all.size

end EntityGen
