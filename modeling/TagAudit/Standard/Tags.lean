import TagAudit.Tag.Registry

/-!
The tag definitions that are used when no others are given.

`default_tag_registry`.
-/

namespace TagAudit.Standard

open Tag (Context Definition CompoundDefinition Detection Registry RegistryFault)

/-- A search for any of several patterns in code. -/
def inCode (patterns : List String) : Detection :=
  .pattern .any ⟨patterns, true, true⟩

/-- A search for any of several patterns in the whole text, in any letter case. -/
def inText (patterns : List String) : Detection :=
  .pattern .any ⟨patterns, false, false⟩

/-- A search for any of several patterns inside blocks. -/
def within (context : Context) (patterns : List String) : Detection :=
  .contextual context ⟨patterns, true, false⟩

def tags : List Definition :=
  [
    ⟨"IS_CONTROLLER", "structure", "Spring MVC controller class",
      inCode ["@Controller\\b", "@RestController\\b"]⟩,
    ⟨"IS_SERVICE", "structure", "Spring service class",
      inCode ["@Service\\b"]⟩,
    ⟨"IS_REPOSITORY", "structure", "Data-access class",
      inCode ["@Repository\\b", "\\bclass\\s+\\w+Dao\\b"]⟩,
    ⟨"HAS_TRANSACTIONAL", "transaction", "Declarative transaction boundary",
      inCode ["@Transactional\\b"]⟩,
    ⟨"USES_CONNECTION", "resource", "Acquires a JDBC Connection",
      inCode ["\\bConnection\\s+\\w+", "getConnection\\s*\\("]⟩,
    ⟨"USES_STATEMENT", "resource", "Creates a JDBC Statement or PreparedStatement",
      inCode ["\\b(Prepared|Callable)?Statement\\s+\\w+\\s*=",
              "\\.(prepareStatement|createStatement|prepareCall)\\s*\\("]⟩,
    ⟨"USES_RESULTSET", "resource", "Holds a JDBC ResultSet",
      inCode ["\\bResultSet\\s+\\w+"]⟩,
    ⟨"USES_STREAM", "resource", "Opens a file stream, reader or writer",
      inCode ["\\bnew\\s+(FileInputStream|FileOutputStream|FileReader|FileWriter|"
        ++ "BufferedReader|BufferedWriter)\\s*\\("]⟩,
    ⟨"HAS_TRY_WITH_RESOURCES", "resource", "Uses try-with-resources",
      inCode ["\\btry\\s*\\("]⟩,
    ⟨"HAS_CLOSE_IN_FINALLY", "resource", "Closes a resource inside a finally block",
      within .finallyClause ["\\.close\\s*\\(\\s*\\)"]⟩,
    ⟨"HAS_EMPTY_CATCH", "exception", "Catch block with no statements",
      inCode ["catch\\s*\\([^)]*\\)\\s*\\\x7b\\s*\\\x7d"]⟩,
    ⟨"HAS_GENERIC_CATCH", "exception", "Catches Exception or Throwable",
      inCode ["catch\\s*\\(\\s*(final\\s+)?(Exception|Throwable)\\s+\\w+\\s*\\)"]⟩,
    ⟨"HAS_PRINT_STACK_TRACE", "exception", "Calls printStackTrace()",
      inCode ["\\.printStackTrace\\s*\\(\\s*\\)"]⟩,
    ⟨"HAS_SQL_CONCATENATION", "security", "SQL string literal concatenated with a value",
      inText ["\"\\s*(SELECT|INSERT\\s+INTO|UPDATE|DELETE\\s+FROM)\\b[^\"]*\"\\s*\\+"]⟩,
    ⟨"HAS_HARDCODED_PASSWORD", "security", "Password assigned from a string literal",
      inText ["\\b(password|passwd|pwd)\\w*\\s*=\\s*\"[^\"]+\""]⟩,
    ⟨"USES_SYSTEM_OUT", "logging", "Writes to System.out or System.err",
      inCode ["System\\.(out|err)\\.print"]⟩,
    ⟨"HAS_THREAD_SLEEP", "performance", "Blocks the current thread with Thread.sleep",
      inCode ["Thread\\.sleep\\s*\\("]⟩,
    ⟨"HAS_DB_CALL_IN_LOOP", "performance", "Database call issued inside a loop body",
      within .loopBody ["\\.(executeQuery|executeUpdate|execute)\\s*\\(",
                        "\\.(findById|findAll|save)\\s*\\("]⟩,
    ⟨"HAS_LOOP", "structure", "Contains a for, while or do loop",
      .node .loop⟩,
    ⟨"HAS_NESTED_LOOP", "performance", "A loop nested in another loop",
      .node .nestedLoop⟩,
    ⟨"HIGH_CYCLOMATIC_COMPLEXITY", "complexity",
      "Parser-measured cyclomatic complexity of 15 or more",
      .metric .cyclomaticComplexity .atLeast 15⟩,
    ⟨"DEEP_CONTROL_NESTING", "complexity", "Control statements nested 5 or more levels deep",
      .metric .maxNestingDepth .atLeast 5⟩,
    ⟨"MANY_METHODS", "complexity", "20 or more declared methods",
      .metric .methodCount .atLeast 20⟩,
    ⟨"LARGE_FILE", "complexity", "More than 500 lines",
      .metric .lineCount .moreThan 500⟩
  ]

def compounds : List CompoundDefinition :=
  [
    ⟨"RESOURCE_LEAK_RISK",
      "(USES_CONNECTION || USES_STATEMENT || USES_RESULTSET || USES_STREAM)"
        ++ " && !HAS_TRY_WITH_RESOURCES && !HAS_CLOSE_IN_FINALLY",
      .high, "Resources acquired without try-with-resources or a closing finally block"⟩,
    ⟨"SQL_INJECTION_RISK",
      "HAS_SQL_CONCATENATION && USES_STATEMENT",
      .critical, "Concatenated SQL executed through a JDBC statement"⟩,
    ⟨"N_PLUS_ONE_RISK",
      "HAS_DB_CALL_IN_LOOP && (USES_STATEMENT || USES_CONNECTION || IS_SERVICE || IS_REPOSITORY)",
      .high, "Per-iteration database round trips"⟩,
    ⟨"SWALLOWED_EXCEPTION",
      "HAS_EMPTY_CATCH || (HAS_GENERIC_CATCH && HAS_PRINT_STACK_TRACE)",
      .medium, "Exceptions caught and effectively discarded"⟩,
    ⟨"COMPLEX_CONTROLLER",
      "IS_CONTROLLER && (COMPLEXITY_HIGH || NESTING_DEEP)",
      .medium, "Controller carrying heavy branching logic"⟩
  ]

def version : String := "1.0.0"

def registry : Except RegistryFault Registry :=
  Registry.build version tags compounds

end TagAudit.Standard
