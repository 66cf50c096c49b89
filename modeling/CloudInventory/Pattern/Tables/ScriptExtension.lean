import CloudInventory.Pattern.Tables.Script

/-!
Script extensions: the scripts in whose texts a character stands. For most characters it is the
script to which they belong; the others are listed with all of theirs.
-/
namespace CloudInventory.Pattern

/-- The characters that do not stand in the texts of their own script alone, with the short names of
the scripts that use them. -/
def scriptExtensionTable : List (List String × CodeRanges) := [
  (["adlm", "arab"], CodeRanges.ofTable ["204f"]),
  (["adlm", "arab", "gara", "nkoo", "rohg", "syrc", "thaa", "yezi"], CodeRanges.ofTable ["61f"]),
  (["adlm", "arab", "hung"], CodeRanges.ofTable ["2e41"]),
  (["adlm", "arab", "mand", "mani", "ougr", "phlp", "rohg", "sogd", "syrc"], CodeRanges.ofTable [
    "640"]),
  (["aghb", "cher", "copt", "cyrl", "goth", "grek", "latn", "osge", "syrc", "tfng", "todr"],
    CodeRanges.ofTable [
    "304"]),
  (["aghb", "cher", "goth", "latn", "sunu", "syrc", "thai"], CodeRanges.ofTable ["331"]),
  (["aghb", "latn", "todr"], CodeRanges.ofTable ["35e"]),
  (["arab", "copt"], CodeRanges.ofTable ["102e0-102fb"]),
  (["arab", "gara", "nkoo", "rohg", "syrc", "thaa", "yezi"], CodeRanges.ofTable ["60c 61b"]),
  (["arab", "nkoo"], CodeRanges.ofTable ["fd3e-fd3f"]),
  (["arab", "rohg"], CodeRanges.ofTable ["6d4"]),
  (["arab", "syrc"], CodeRanges.ofTable ["64b-655 670"]),
  (["arab", "syrc", "thaa"], CodeRanges.ofTable ["61c"]),
  (["arab", "thaa"], CodeRanges.ofTable ["fdf2 fdfd"]),
  (["arab", "thaa", "yezi"], CodeRanges.ofTable ["660-669"]),
  (["armn", "cyrl", "dupl", "goth", "grek", "hebr", "latn", "perm", "syrc", "tale", "tfng"],
    CodeRanges.ofTable [
    "308"]),
  (["armn", "geor", "glag"], CodeRanges.ofTable ["589"]),
  (["avst", "cari", "copt", "dupl", "elba", "geor", "glag", "gong", "goth", "grek", "hani", "latn",
    "lydi", "mahj", "perm", "shaw"], CodeRanges.ofTable ["b7"]),
  (["avst", "cari", "geor", "hung", "kthi", "lydi", "samr"], CodeRanges.ofTable ["2e31"]),
  (["avst", "orkh"], CodeRanges.ofTable ["2e30"]),
  (["beng"], CodeRanges.ofTable ["1cf7"]),
  (["beng", "cakm", "sylo"], CodeRanges.ofTable ["9e6-9ef"]),
  (["beng", "cyrl", "deva", "latn", "lisu", "thai", "toto"], CodeRanges.ofTable ["2bc"]),
  (["beng", "deva"], CodeRanges.ofTable ["1ce1 1cf5-1cf6"]),
  (["beng", "deva", "dogr", "gong", "gonm", "gran", "gujr", "gukh", "guru", "knda", "limb", "mahj",
    "mlym", "nand", "onao", "orya", "sind", "sinh", "sylo", "takr", "taml", "telu", "tirh"],
    CodeRanges.ofTable [
    "965"]),
  (["beng", "deva", "dogr", "gong", "gonm", "gran", "gujr", "guru", "knda", "mahj", "mlym", "nand",
    "onao", "orya", "sind", "sinh", "sylo", "takr", "taml", "telu", "tirh"], CodeRanges.ofTable [
    "964"]),
  (["beng", "deva", "gran", "gujr", "guru", "knda", "latn", "mlym", "nand", "newa", "orya", "shrd",
    "taml", "telu", "tirh"], CodeRanges.ofTable ["951"]),
  (["beng", "deva", "gran", "gujr", "guru", "knda", "latn", "mlym", "newa", "orya", "taml", "telu",
    "tirh"], CodeRanges.ofTable ["952"]),
  (["beng", "deva", "gran", "knda"], CodeRanges.ofTable ["1cd0 1cd2"]),
  (["beng", "deva", "gran", "knda", "mlym", "nand", "orya", "sinh", "telu", "tirh", "tutg"],
    CodeRanges.ofTable [
    "1cf2"]),
  (["beng", "deva", "newa", "shrd"], CodeRanges.ofTable ["1ced"]),
  (["beng", "deva", "newa", "telu"], CodeRanges.ofTable ["1cd8"]),
  (["beng", "deva", "newa", "telu", "tirh"], CodeRanges.ofTable ["1cd5"]),
  (["beng", "deva", "shrd"], CodeRanges.ofTable ["1cea"]),
  (["beng", "deva", "telu"], CodeRanges.ofTable ["1cd6"]),
  (["beng", "deva", "tutg"], CodeRanges.ofTable ["a8f1"]),
  (["bopo", "hang", "hani", "hira", "kana"], CodeRanges.ofTable [
    "3003 3013 301c-301f 3030 3037 fe45-fe46"]),
  (["bopo", "hang", "hani", "hira", "kana", "lisu", "mong", "tibt", "yiii"], CodeRanges.ofTable [
    "300a-300b"]),
  (["bopo", "hang", "hani", "hira", "kana", "mong", "phag", "yiii"], CodeRanges.ofTable ["3002"]),
  (["bopo", "hang", "hani", "hira", "kana", "mong", "tibt", "yiii"], CodeRanges.ofTable [
    "3008-3009"]),
  (["bopo", "hang", "hani", "hira", "kana", "mong", "yiii"], CodeRanges.ofTable ["3001"]),
  (["bopo", "hang", "hani", "hira", "kana", "yiii"], CodeRanges.ofTable [
    "300c-3011 3014-301b 30fb ff61-ff65"]),
  (["bopo", "hani"], CodeRanges.ofTable ["302a-302d"]),
  (["bopo", "latn"], CodeRanges.ofTable ["2c7 2c9-2cb 2d9"]),
  (["bugi", "java"], CodeRanges.ofTable ["a9cf"]),
  (["buhd", "hano", "tagb", "tglg"], CodeRanges.ofTable ["1735-1736"]),
  (["cakm", "mymr", "tale"], CodeRanges.ofTable ["1040-1049"]),
  (["cari", "geor", "glag", "hung", "lyci", "orkh"], CodeRanges.ofTable ["205a"]),
  (["cari", "grek", "hung", "mero"], CodeRanges.ofTable ["205d"]),
  (["cher", "copt", "cyrl", "grek", "latn", "perm", "sunu", "tale"], CodeRanges.ofTable ["300"]),
  (["cher", "cyrl", "grek", "latn", "osge", "sunu", "tale", "todr"], CodeRanges.ofTable ["301"]),
  (["cher", "cyrl", "latn", "osge"], CodeRanges.ofTable ["30b"]),
  (["cher", "cyrl", "latn", "tfng"], CodeRanges.ofTable ["302"]),
  (["cher", "dupl", "kana", "latn", "syrc", "tfng"], CodeRanges.ofTable ["323"]),
  (["cher", "dupl", "latn", "syrc"], CodeRanges.ofTable ["324"]),
  (["cher", "latn", "syrc"], CodeRanges.ofTable ["330"]),
  (["cher", "latn", "tale"], CodeRanges.ofTable ["30c"]),
  (["copt", "dupl", "hebr", "latn", "perm", "syrc", "tale", "tfng", "todr"], CodeRanges.ofTable [
    "307"]),
  (["copt", "elba", "glag", "goth", "kana", "latn"], CodeRanges.ofTable ["305"]),
  (["copt", "grek"], CodeRanges.ofTable ["374-375"]),
  (["copt", "latn"], CodeRanges.ofTable ["2e17"]),
  (["cpmn", "cprt", "linb"], CodeRanges.ofTable ["10100-10101"]),
  (["cprt", "lina", "linb"], CodeRanges.ofTable ["10107-10133"]),
  (["cprt", "linb"], CodeRanges.ofTable ["10102 10137-1013f"]),
  (["cyrl", "glag"], CodeRanges.ofTable ["484 487 2e43 a66f"]),
  (["cyrl", "grek", "latn", "perm", "tfng"], CodeRanges.ofTable ["306"]),
  (["cyrl", "latn"], CodeRanges.ofTable ["485-486"]),
  (["cyrl", "latn", "syrc"], CodeRanges.ofTable ["1df8"]),
  (["cyrl", "latn", "todr"], CodeRanges.ofTable ["311"]),
  (["cyrl", "perm"], CodeRanges.ofTable ["483"]),
  (["deva"], CodeRanges.ofTable ["1cd1 1cd4 1cdb 1cde-1cdf 1ce3-1ce8 1cec 1cee-1cf1"]),
  (["deva", "dogr", "gujr", "guru", "khoj", "knda", "kthi", "mahj", "mlym", "modi", "nand", "shrd",
    "sind", "takr", "tirh", "tutg"], CodeRanges.ofTable ["a830-a832"]),
  (["deva", "dogr", "gujr", "guru", "khoj", "knda", "kthi", "mahj", "modi", "nand", "shrd", "sind",
    "takr", "tirh", "tutg"], CodeRanges.ofTable ["a833-a835"]),
  (["deva", "dogr", "gujr", "guru", "khoj", "kthi", "mahj", "modi", "shrd", "sind", "takr", "tirh"],
    CodeRanges.ofTable [
    "a838"]),
  (["deva", "dogr", "gujr", "guru", "khoj", "kthi", "mahj", "modi", "sind", "takr", "tirh"],
    CodeRanges.ofTable [
    "a836-a837 a839"]),
  (["deva", "dogr", "kthi", "mahj"], CodeRanges.ofTable ["966-96f"]),
  (["deva", "gran"], CodeRanges.ofTable ["1cf3 1cf8-1cf9"]),
  (["deva", "gran", "knda"], CodeRanges.ofTable ["1cd3"]),
  (["deva", "gran", "knda", "tutg"], CodeRanges.ofTable ["1cf4"]),
  (["deva", "gran", "latn"], CodeRanges.ofTable ["20f0"]),
  (["deva", "knda", "mlym", "orya", "taml", "telu"], CodeRanges.ofTable ["1cda"]),
  (["deva", "nand", "newa"], CodeRanges.ofTable ["1ce9"]),
  (["deva", "newa"], CodeRanges.ofTable ["1ceb"]),
  (["deva", "newa", "shrd"], CodeRanges.ofTable ["1cd7"]),
  (["deva", "newa", "tirh"], CodeRanges.ofTable ["1ce2"]),
  (["deva", "shrd"], CodeRanges.ofTable ["1cd9 1cdc-1cdd 1ce0"]),
  (["deva", "taml"], CodeRanges.ofTable ["a8f3"]),
  (["dupl"], CodeRanges.ofTable ["2e3c 1bca0-1bca3"]),
  (["dupl", "latn", "syrc"], CodeRanges.ofTable ["30a"]),
  (["ethi", "latn"], CodeRanges.ofTable ["30e"]),
  (["geor", "glag", "latn"], CodeRanges.ofTable ["10fb"]),
  (["glag", "latn", "sunu", "syrc", "thai"], CodeRanges.ofTable ["303"]),
  (["gran", "taml"], CodeRanges.ofTable ["be6-bf3 11301 11303 1133b-1133c 11fd0-11fd1 11fd3"]),
  (["grek"], CodeRanges.ofTable ["342 345 1dc0-1dc1"]),
  (["grek", "latn", "perm", "todr"], CodeRanges.ofTable ["313"]),
  (["gujr", "khoj"], CodeRanges.ofTable ["ae6-aef"]),
  (["guru", "mult"], CodeRanges.ofTable ["a66-a6f"]),
  (["hani"], CodeRanges.ofTable [
    "3006 303e-303f 3190-319f 31c0-31e5 3220-3247 3280-32b0 32c0-32cb 32ff 3358-3370 337b-337f",
    "33e0-33fe 1d360-1d371 1f250-1f251"]),
  (["hani", "hira", "kana"], CodeRanges.ofTable ["303c-303d"]),
  (["hani", "latn"], CodeRanges.ofTable ["a700-a707"]),
  (["hani", "tang"], CodeRanges.ofTable ["2ff0-2fff 31ef"]),
  (["hira", "kana"], CodeRanges.ofTable ["3031-3035 3099-309c 30a0 30fc ff70 ff9e-ff9f"]),
  (["kali", "latn", "mymr"], CodeRanges.ofTable ["a92e"]),
  (["knda", "nand", "tutg"], CodeRanges.ofTable ["ce6-cef"]),
  (["latn"], CodeRanges.ofTable ["363-36f"]),
  (["latn", "lisu"], CodeRanges.ofTable ["2cd"]),
  (["latn", "mong", "phag"], CodeRanges.ofTable ["202f"]),
  (["latn", "osge"], CodeRanges.ofTable ["358"]),
  (["latn", "sunu"], CodeRanges.ofTable ["30d 310"]),
  (["latn", "sunu", "syrc"], CodeRanges.ofTable ["32d"]),
  (["latn", "syrc"], CodeRanges.ofTable ["325 32e"]),
  (["latn", "tfng"], CodeRanges.ofTable ["309"]),
  (["latn", "thai"], CodeRanges.ofTable ["2d7"]),
  (["mani", "ougr"], CodeRanges.ofTable ["10af2"]),
  (["mong", "phag"], CodeRanges.ofTable ["1802-1803 1805"]),
  (["nand"], CodeRanges.ofTable ["1cfa"]),
  (["runr"], CodeRanges.ofTable ["16eb-16ed"]),
  (["syrc"], CodeRanges.ofTable ["1dfa"])]

/-- The characters of the table. -/
def sharedCharacters : CodeRanges :=
  CodeRanges.ofList (scriptExtensionTable.flatMap Prod.snd)

/-- The characters that stand in the texts of the script of a name. -/
def scriptExtensionNamed? (name : String) : Option CodeRanges :=
  (scriptTable.find? (fun (names, _) => names.contains name)).map (fun (names, own) =>
    let shared := scriptExtensionTable.filter (fun (users, _) => users.contains (names.headD ""))
    (own.difference sharedCharacters).union (CodeRanges.ofList (shared.flatMap Prod.snd)))

end CloudInventory.Pattern
