/-!
# The grammar of the High Level Assembler

The document as it is shipped with the library.
-/

namespace LineLexer.Builtin

def hlasmLines : List String := [
  "# High Level Assembler (HLASM)",
  "#",
  "# Column-sensitive: labels start in column 1, a line of leading blanks",
  "# jumps straight to the operator or operand field.",
  "#",
  "# Word classes are wrapped in `(?-u:...)` so `\\w` and case folding stay",
  "# ASCII-only; symbols of the assembler are made of nothing else.",
  "",
  "name = \"hlasm\"",
  "default_token = \"source\"",
  "ignore_case = true",
  "",
  "[[states.root]]",
  "pattern = '^\\*.*$'",
  "token = \"comment\"",
  "next = \"pop_all\"",
  "",
  "[[states.root]]",
  "pattern = '^(?-u:[\\w&#$@])+\\s+'",
  "token = \"type\"",
  "next = \x7b push = \"operator\" \x7d",
  "",
  "[[states.root]]",
  "pattern = '^[\\s]\x7b9\x7d'",
  "token = \"default\"",
  "next = \x7b push = \"operator\" \x7d",
  "",
  "[[states.root]]",
  "pattern = '^[\\s]\x7b15\x7d'",
  "token = \"default\"",
  "next = \x7b push = \"operands\" \x7d",
  "",
  "[[states.operator]]",
  "pattern = '(?-u:[\\w&#$@])+\\s*$'",
  "token = \"keyword\"",
  "next = \"pop_all\"",
  "",
  "[[states.operator]]",
  "pattern = '(?-u:[\\w&#$@])+\\s+'",
  "token = \"keyword\"",
  "next = \x7b push = \"operands\" \x7d",
  "",
  "[[states.operands]]",
  "pattern = \"'[^']+'\\\\s*$\"",
  "token = \"string\"",
  "next = \"pop_all\"",
  "",
  "[[states.operands]]",
  "pattern = '\\s*$'",
  "token = \"default\"",
  "next = \"pop_all\"",
  "",
  "[[states.operands]]",
  "pattern = ',\\s*$'",
  "token = \"default\"",
  "next = \"pop_all\"",
  "",
  "[[states.operands]]",
  "pattern = '(?-u:[\\(\\)\\w&#$@])+\\s*$'",
  "token = \"default\"",
  "next = \"pop_all\"",
  "",
  "[[states.operands]]",
  "pattern = ',(?-u:[\\(\\)\\w&#$@])+\\s*$'",
  "token = \"default\"",
  "next = \"pop_all\"",
  "",
  "[[states.operands]]",
  "pattern = ',\\s+[^X]*$'",
  "token = \"comment\"",
  "next = \"pop_all\"",
  "",
  "[[states.operands]]",
  "pattern = '\\s+(?-u:[\\(\\)\\s\\w&#$@])+\\s*$'",
  "token = \"comment\"",
  "next = \"pop_all\"",
  "",
  "[[states.operands]]",
  "pattern = ','",
  "token = \"default\"",
  "next = \x7b push = \"cont\" \x7d",
  "",
  "[[states.operands]]",
  "pattern = \"[kldtn]'(?-u:[\\\\(\\\\)\\\\w&#$])+\"",
  "token = \"number\"",
  "next = \x7b push = \"cont\" \x7d",
  "",
  "[[states.operands]]",
  "pattern = \"'[^']+'\"",
  "token = \"string\"",
  "next = \x7b push = \"cont\" \x7d",
  "",
  "[[states.operands]]",
  "pattern = '(?-u:[\\w&#$@])+='",
  "token = \"variable.name\"",
  "next = \x7b push = \"value\" \x7d",
  "",
  "# Continued operands; a trailing X keeps the statement open",
  "[[states.cont]]",
  "pattern = '\\s*[X]$'",
  "token = \"keyword\"",
  "next = \"pop\"",
  "",
  "[[states.cont]]",
  "pattern = '\\s+(?-u:[\\s\\./\\(\\)\\w&#$@])+$'",
  "token = \"comment\"",
  "next = \"pop_all\"",
  "",
  "[[states.cont]]",
  "pattern = '\\)\\s*$'",
  "token = \"default\"",
  "next = \"pop_all\"",
  "",
  "[[states.cont]]",
  "pattern = '\\('",
  "token = \"default\"",
  "next = \x7b push = \"operands\" \x7d",
  "",
  "[[states.cont]]",
  "pattern = '\\)'",
  "token = \"default\"",
  "next = \x7b push = \"operands\" \x7d",
  "",
  "[[states.cont]]",
  "pattern = \"'[^']+'\\\\s*\"",
  "token = \"string\"",
  "next = \x7b push = \"cont\" \x7d",
  "",
  "[[states.cont]]",
  "pattern = \"[kldtn]'(?-u:[\\\\(\\\\)\\\\w&#$@])+\"",
  "token = \"number\"",
  "next = \x7b push = \"cont\" \x7d",
  "",
  "[[states.cont]]",
  "pattern = '(?-u:[\\w&#$@])+='",
  "token = \"variable.name\"",
  "next = \x7b push = \"value\" \x7d",
  "",
  "[[states.cont]]",
  "pattern = '(?-u:[\\./\\(\\)\\w&#$@])+$'",
  "token = \"default\"",
  "next = \"pop_all\"",
  "",
  "[[states.cont]]",
  "pattern = '(?-u:[\\./\\(\\)\\w&#$@])+'",
  "token = \"default\"",
  "next = \x7b push = \"operands\" \x7d",
  "",
  "[[states.comment]]",
  "pattern = '.*$'",
  "token = \"comment\"",
  "next = \"pop_all\"",
  "",
  "[[states.value]]",
  "pattern = '(?-u:[\\-\\./\\(\\)\\w&#$@])+$'",
  "token = \"default\"",
  "next = \"pop_all\"",
  "",
  "[[states.value]]",
  "pattern = \"'[^']+'\\\\s*\"",
  "token = \"string\"",
  "next = \x7b push = \"operands\" \x7d",
  "",
  "[[states.value]]",
  "pattern = \"[kldtn]'(?-u:[\\\\(\\\\)\\\\w&#$@])+\"",
  "token = \"number\"",
  "next = \x7b push = \"operands\" \x7d",
  "",
  "[[states.value]]",
  "pattern = '(?-u:[\\-\\./\\(\\)\\w&#$@])+'",
  "token = \"default\"",
  "next = \x7b push = \"operands\" \x7d"]

def hlasmSource : String := String.join (hlasmLines.map (· ++ "\n"))

end LineLexer.Builtin
