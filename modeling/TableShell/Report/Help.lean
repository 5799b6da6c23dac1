/-!
# Help

The text that the command `help` shows.
-/

namespace TableShell

/-- The lines of the help text. -/
def helpLines : List String :=
  ["Supported commands:",
   "help                                 Show this help",
   "clear                                Clear terminal content",
   "list                                 List all data",
   "columns                              Show column information",
   "add col1=val1 col2=val2 ...          Add a new row",
   "add_batch col1=val1,val2,... col2=val3,val4,...    Add multiple rows at once",
   "update cond1=val1 ... set col_to_update1=new_val1 ...  Update rows based on conditions",
   "delete cond1=val1 cond2=val2 ...     Delete rows based on conditions " ++
     "(add confirm=yes for more than 10 rows)",
   "delete_all                           Delete all data (with confirmation)",
   "search keyword                       Fuzzy search all fields containing the keyword",
   "search_exact col=val                 Exactly search for rows where col equals val",
   "",
   "Advanced features:",
   "- For numeric columns, you can use comparison operators: >, <, >=, <=, !=",
   "- For string columns, you can use patterns: 'prefix*', '*suffix', '*contains*'",
   "- Supported special values: nan, na, none, '' (empty string) for missing values"]

/-- The help text. -/
def helpText : String :=
  "\n".intercalate helpLines

end TableShell
