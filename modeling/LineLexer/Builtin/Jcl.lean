/-!
# The grammar of Job Control Language

The document as it is shipped with the library.
-/

namespace LineLexer.Builtin

def jclLines : List String := [
  "# z/OS Job Control Language (JCL)",
  "#",
  "# Statements start with `//` (or `/*`); a trailing comma continues the",
  "# operand field on the next line.",
  "",
  "name = \"jcl\"",
  "default_token = \"default\"",
  "ignore_case = false",
  "",
  "[[brackets]]",
  "open = \"(\"",
  "close = \")\"",
  "token = \"jcl-delimiter\"",
  "",
  "[[states.root]]",
  "pattern = '^//\\*.*$'",
  "token = \"jcl-comment-//*-all\"",
  "",
  "[[states.root]]",
  "pattern = ', *$'",
  "token = \"jcl-delimiter\"",
  "next = \x7b push = \"operands2\" \x7d",
  "",
  "[[states.root]]",
  "pattern = ' *\\n| *$'",
  "token = \"default\"",
  "next = \"pop_all\"",
  "",
  "[[states.root]]",
  "pattern = ',( +)[0-9]+$'",
  "token = \"jcl-delimiter\"",
  "next = \x7b push = \"operands2\" \x7d",
  "",
  "[[states.root]]",
  "pattern = '( *)[0-9]+$'",
  "token = \"default\"",
  "",
  "[[states.root]]",
  "pattern = '( +)'",
  "token = \"whitespace\"",
  "",
  "[[states.root]]",
  "pattern = '^/\\*'",
  "token = \"jcl-statement-/*\"",
  "next = \x7b push = \"nameFirstChar\" \x7d",
  "",
  "[[states.root]]",
  "pattern = '^//'",
  "token = \"jcl-statement-//\"",
  "next = \x7b push = \"nameFirstChar\" \x7d",
  "",
  "[[states.root]]",
  "pattern = '.*'",
  "token = \"none-slash\"",
  "",
  "[[states.nameFirstChar]]",
  "pattern = '[ ]'",
  "token = \"default\"",
  "next = \x7b push = \"operator\" \x7d",
  "",
  "[[states.nameFirstChar]]",
  "pattern = '[A-Z|@|#|$| ]'",
  "token = \"default\"",
  "next = \x7b push = \"name\" \x7d",
  "",
  "[[states.nameFirstChar]]",
  "pattern = '.'",
  "token = \"jcl-invalid\"",
  "next = \x7b push = \"name\" \x7d",
  "",
  "[[states.name]]",
  "pattern = '[A-Z|@|#|$|0-9]\x7b8,\x7d'",
  "token = \"jcl-invalid\"",
  "next = \x7b push = \"operator\" \x7d",
  "",
  "[[states.name]]",
  "pattern = ', *$'",
  "token = \"jcl-delimiter\"",
  "next = \x7b push = \"operands2\" \x7d",
  "",
  "[[states.name]]",
  "pattern = ' *\\n| *$'",
  "token = \"default\"",
  "next = \"pop_all\"",
  "",
  "[[states.name]]",
  "pattern = ',( +)[0-9]+$'",
  "token = \"jcl-delimiter\"",
  "next = \x7b push = \"operands2\" \x7d",
  "",
  "[[states.name]]",
  "pattern = '( *)[0-9]+$'",
  "token = \"default\"",
  "next = \"pop_all\"",
  "",
  "[[states.name]]",
  "pattern = '( +)'",
  "token = \"whitespace\"",
  "next = \x7b push = \"operator\" \x7d",
  "",
  "[[states.name]]",
  "pattern = \"'.*'\"",
  "token = \"jcl-string\"",
  "next = \x7b push = \"strings\" \x7d",
  "",
  "[[states.name]]",
  "pattern = '[^A-Z|@|#|$|0-9]'",
  "token = \"jcl-invalid\"",
  "",
  "[[states.name]]",
  "pattern = '.'",
  "token = \"default\"",
  "",
  "[[states.operator]]",
  "pattern = ', *$'",
  "token = \"jcl-delimiter\"",
  "next = \x7b push = \"operands2\" \x7d",
  "",
  "[[states.operator]]",
  "pattern = ' *\\n| *$'",
  "token = \"default\"",
  "next = \"pop_all\"",
  "",
  "[[states.operator]]",
  "pattern = '!'",
  "token = \"jcl-invalid\"",
  "next = \x7b push = \"operands\" \x7d",
  "",
  "[[states.operator]]",
  "pattern = '[a-z]+'",
  "token = \"jcl-invalid\"",
  "next = \x7b push = \"operands\" \x7d",
  "",
  "[[states.operator]]",
  "pattern = '(,|&|=|\\^)'",
  "token = \"jcl-delimiter\"",
  "next = \x7b push = \"operands\" \x7d",
  "",
  "[[states.operator]]",
  "pattern = \"'\"",
  "token = \"jcl-string\"",
  "next = \x7b push = \"strings\" \x7d",
  "",
  "[[states.operator]]",
  "pattern = '[()]'",
  "brackets = true",
  "",
  "[[states.operator]]",
  "pattern = '(IF)'",
  "token = \"jcl-operator\"",
  "next = \x7b push = \"if\" \x7d",
  "",
  "[[states.operator]]",
  "pattern = '(DD|CNTL|EXEC|JOB|INCLUDE|JCLLIB|OUTPUT|PROC|SCHEDULE|SET|XMIT|COMMAND) *$'",
  "token = \"jcl-operator\"",
  "next = \"pop_all\"",
  "",
  "[[states.operator]]",
  "pattern = '(DD|CNTL|EXEC|JOB|INCLUDE|JCLLIB|OUTPUT|PROC|SCHEDULE|SET|XMIT|COMMAND) +'",
  "token = \"jcl-operator\"",
  "next = \x7b push = \"operands\" \x7d",
  "",
  "[[states.operator]]",
  "pattern = '(ENDCNTL|EXPORT|ELSE|ENDIF|PEND|THEN) *$'",
  "token = \"jcl-operator\"",
  "next = \"pop_all\"",
  "",
  "[[states.operator]]",
  "pattern = '(ENDCNTL|EXPORT|ELSE|ENDIF|PEND|THEN) +'",
  "token = \"jcl-operator\"",
  "next = \x7b push = \"comments\" \x7d",
  "",
  "[[states.operator]]",
  "pattern = '[^\\s\\\\a-z(,|&|=|\\^)]+'",
  "token = \"default\"",
  "next = \x7b push = \"operands\" \x7d",
  "",
  "[[states.if]]",
  "pattern = ', *$'",
  "token = \"jcl-delimiter\"",
  "next = \x7b push = \"operands2\" \x7d",
  "",
  "[[states.if]]",
  "pattern = ' *\\n| *$'",
  "token = \"default\"",
  "next = \"pop_all\"",
  "",
  "[[states.if]]",
  "pattern = '(THEN )'",
  "token = \"jcl-operator\"",
  "next = \x7b push = \"comments\" \x7d",
  "",
  "[[states.if]]",
  "pattern = '.'",
  "token = \"jcl-variable\"",
  "",
  "[[states.operands]]",
  "pattern = ',( +)[0-9]+$'",
  "token = \"jcl-delimiter\"",
  "next = \x7b push = \"operands2\" \x7d",
  "",
  "[[states.operands]]",
  "pattern = '( *)[0-9]+$'",
  "token = \"default\"",
  "next = \"pop_all\"",
  "",
  "[[states.operands]]",
  "pattern = ', *$'",
  "token = \"jcl-delimiter\"",
  "next = \x7b push = \"operands2\" \x7d",
  "",
  "[[states.operands]]",
  "pattern = ' *\\n| *$'",
  "token = \"default\"",
  "next = \"pop_all\"",
  "",
  "[[states.operands]]",
  "pattern = ', '",
  "token = \"jcl-delimiter\"",
  "next = \x7b push = \"comments\" \x7d",
  "",
  "[[states.operands]]",
  "pattern = \"'\"",
  "token = \"jcl-string\"",
  "next = \x7b push = \"strings\" \x7d",
  "",
  "[[states.operands]]",
  "pattern = '!'",
  "token = \"jcl-invalid\"",
  "",
  "[[states.operands]]",
  "pattern = '[a-z]+'",
  "token = \"jcl-invalid\"",
  "",
  "[[states.operands]]",
  "pattern = '(,|&|=|\\^)'",
  "token = \"jcl-delimiter\"",
  "",
  "[[states.operands]]",
  "pattern = '[()]'",
  "brackets = true",
  "",
  "[[states.operands]]",
  "pattern = ' '",
  "token = \"jcl-variable\"",
  "next = \x7b push = \"comments\" \x7d",
  "",
  "[[states.operands]]",
  "pattern = '.'",
  "token = \"jcl-variable\"",
  "",
  "# Continued statements accept a second operand field before comments",
  "[[states.operands2]]",
  "pattern = ', *$'",
  "token = \"jcl-delimiter\"",
  "next = \x7b push = \"operands2\" \x7d",
  "",
  "[[states.operands2]]",
  "pattern = ' *\\n| *$'",
  "token = \"default\"",
  "next = \"pop_all\"",
  "",
  "[[states.operands2]]",
  "pattern = ',( +)[0-9]+$'",
  "token = \"jcl-delimiter\"",
  "next = \x7b push = \"operands2\" \x7d",
  "",
  "[[states.operands2]]",
  "pattern = '( *)[0-9]+$'",
  "token = \"default\"",
  "next = \"pop_all\"",
  "",
  "[[states.operands2]]",
  "pattern = ', '",
  "token = \"jcl-delimiter\"",
  "next = \x7b push = \"comments\" \x7d",
  "",
  "[[states.operands2]]",
  "pattern = \"'\"",
  "token = \"jcl-string\"",
  "next = \x7b push = \"strings\" \x7d",
  "",
  "[[states.operands2]]",
  "pattern = '!'",
  "token = \"jcl-invalid\"",
  "",
  "[[states.operands2]]",
  "pattern = '[a-z]+'",
  "token = \"jcl-invalid\"",
  "",
  "[[states.operands2]]",
  "pattern = '(,|&|=|\\^)'",
  "token = \"jcl-delimiter\"",
  "",
  "[[states.operands2]]",
  "pattern = '[()]'",
  "brackets = true",
  "",
  "[[states.operands2]]",
  "pattern = ' +'",
  "token = \"jcl-variable\"",
  "next = \x7b push = \"operands\" \x7d",
  "",
  "[[states.operands2]]",
  "pattern = '/'",
  "token = \"jcl-variable\"",
  "",
  "[[states.operands2]]",
  "pattern = '^.*'",
  "token = \"none-slash\"",
  "",
  "[[states.operands2]]",
  "pattern = '.'",
  "token = \"jcl-variable\"",
  "",
  "[[states.comments]]",
  "pattern = '.*'",
  "token = \"jcl-comment-//*-all\"",
  "next = \"pop_all\"",
  "",
  "[[states.comments]]",
  "pattern = ' *\\n| *$'",
  "token = \"default\"",
  "next = \"pop_all\"",
  "",
  "# Quoted strings may run past the end of the line",
  "[[states.strings]]",
  "pattern = \".*' \"",
  "token = \"jcl-string\"",
  "next = \x7b push = \"comments\" \x7d",
  "",
  "[[states.strings]]",
  "pattern = \".*' *\"",
  "token = \"jcl-string\"",
  "next = \x7b push = \"operands\" \x7d",
  "",
  "[[states.strings]]",
  "pattern = '.*'",
  "token = \"jcl-string\""]

def jclSource : String := String.join (jclLines.map (· ++ "\n"))

end LineLexer.Builtin
