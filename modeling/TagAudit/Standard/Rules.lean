import TagAudit.Rule.Basic

/-!
The rules that are used when no others are given.

`default_rule_catalog`.
-/

namespace TagAudit.Standard

def rules : List Rule :=
  [
    { id := "SEC-001"
      title := "Build SQL with bind parameters, not string concatenation"
      category := "security"
      severity := .critical
      tagCondition := some "HAS_SQL_CONCATENATION"
      suggestion := "Use a PreparedStatement with '?' placeholders and setXxx() bindings."
      description :=
        "Concatenating values into SQL text allows SQL injection."
      fixEffort := some .medium },
    { id := "SEC-002"
      title := "Do not hardcode credentials"
      category := "security"
      severity := .critical
      tagCondition := some "HAS_HARDCODED_PASSWORD"
      suggestion := "Read secrets from configuration or a secret store."
      description :=
        "Credentials in source code leak through version control and builds."
      fixEffort := some .low },
    { id := "RES-001"
      title := "Close JDBC and I/O resources with try-with-resources"
      category := "resource_management"
      severity := .high
      tagCondition := some "RESOURCE_LEAK_RISK"
      suggestion := "Declare the resource in a try (...) header so it is closed automatically."
      description :=
        "Connections, statements, result sets and streams must be released on every path."
      fixEffort := some .low },
    { id := "PERF-001"
      title := "Avoid database calls inside loops"
      category := "performance"
      severity := .high
      tagCondition := some "HAS_DB_CALL_IN_LOOP"
      suggestion := "Fetch in bulk (IN clause, batch API or join) before the loop."
      description :=
        "One query per iteration multiplies round trips (N+1 queries)."
      fixEffort := some .high },
    { id := "PERF-002"
      title := "Review nested loops"
      category := "performance"
      severity := .medium
      tagCondition := some "HAS_NESTED_LOOP"
      suggestion := "Index the inner collection in a Map or Set before iterating."
      description :=
        "Nested iteration grows quadratically with input size."
      fixEffort := some .medium },
    { id := "PERF-003"
      title := "Do not block request threads with Thread.sleep"
      category := "performance"
      severity := .medium
      tagCondition := some "HAS_THREAD_SLEEP && (IS_SERVICE || IS_CONTROLLER)"
      suggestion := "Use a scheduler or asynchronous retry with backoff."
      description :=
        "Sleeping inside a request path ties up the server thread pool."
      fixEffort := none },
    { id := "EXC-001"
      title := "Do not swallow exceptions in empty catch blocks"
      category := "exception_handling"
      severity := .high
      tagCondition := some "HAS_EMPTY_CATCH"
      suggestion := "Log the exception with context or rethrow it wrapped."
      description :=
        "An empty catch block hides failures."
      fixEffort := some .low },
    { id := "EXC-002"
      title := "Catch specific exception types"
      category := "exception_handling"
      severity := .medium
      tagCondition := some "HAS_GENERIC_CATCH && !HAS_EMPTY_CATCH"
      suggestion := "Catch the checked exceptions the block can actually throw."
      description :=
        "Catching Exception or Throwable also traps programming errors."
      fixEffort := some .medium },
    { id := "EXC-003"
      title := "Log exceptions instead of printStackTrace()"
      category := "exception_handling"
      severity := .low
      tagCondition := some "HAS_PRINT_STACK_TRACE"
      suggestion := "Use logger.error(\"...\", e)."
      description :=
        "printStackTrace() writes to stderr and bypasses the logging framework."
      fixEffort := some .low },
    { id := "ARCH-001"
      title := "Keep JDBC access out of controllers"
      category := "architecture"
      severity := .high
      tagCondition := some "IS_CONTROLLER && (USES_CONNECTION || USES_STATEMENT)"
      suggestion := "Move data access into a @Repository and call it through a @Service."
      description :=
        "Controllers should delegate persistence to the service and repository layers."
      fixEffort := some .high },
    { id := "ARCH-002"
      title := "Do not declare transactions on controllers"
      category := "architecture"
      severity := .medium
      tagCondition := some "IS_CONTROLLER && HAS_TRANSACTIONAL"
      suggestion := "Move @Transactional to the service method."
      description :=
        "Transaction boundaries belong to the service layer."
      fixEffort := some .low },
    { id := "ARCH-003"
      title := "Split oversized classes"
      category := "architecture"
      severity := .medium
      tagCondition := some "LINE_COUNT_HIGH || METHOD_COUNT_HIGH"
      suggestion := "Extract cohesive groups of methods into their own classes."
      description :=
        "Large classes usually carry more than one responsibility."
      fixEffort := some .high },
    { id := "STY-001"
      title := "Reduce branching and nesting"
      category := "style"
      severity := .medium
      tagCondition := some "COMPLEXITY_HIGH || NESTING_DEEP"
      suggestion := "Use guard clauses and extract methods."
      description :=
        "Deeply nested, branch-heavy code is hard to read and test."
      fixEffort := some .medium },
    { id := "STY-002"
      title := "Use a logger instead of System.out"
      category := "style"
      severity := .low
      tagCondition := some "USES_SYSTEM_OUT"
      suggestion := "Use an SLF4J logger."
      description :=
        "Console output cannot be filtered, routed or leveled."
      fixEffort := some .low },
    { id := "NAM-001"
      title := "Follow Java naming conventions"
      category := "naming"
      severity := .low
      tagCondition := none
      suggestion := "Rename identifiers that break the convention."
      description :=
        "Classes in UpperCamelCase, methods and fields in lowerCamelCase, constants in "
          ++ "UPPER_SNAKE_CASE."
      fixEffort := none }
  ]

end TagAudit.Standard
