import Overlay.Unicode.Ranges

/-!
Characters that are used with several scripts, or with another script than
their own. Each row has the short names of the scripts, and the characters.
-/

namespace Overlay.Unicode

def scriptExtensionRows : List (List String × Ranges) := [
  (["avst", "cari", "copt", "dupl", "elba", "geor", "glag", "gong", "goth", "grek",
    "hani", "latn", "lydi", "mahj", "perm", "shaw"], .ofRows ["B7"]),
  (["beng", "cyrl", "deva", "latn", "lisu", "thai", "toto"], .ofRows ["2BC"]),
  (["bopo", "latn"], .ofRows ["2C7 2C9-2CB 2D9"]),
  (["latn", "lisu"], .ofRows ["2CD"]),
  (["latn", "thai"], .ofRows ["2D7"]),
  (["cher", "copt", "cyrl", "grek", "latn", "perm", "sunu", "tale"], .ofRows ["300"]),
  (["cher", "cyrl", "grek", "latn", "osge", "sunu", "tale", "todr"], .ofRows ["301"]),
  (["cher", "cyrl", "latn", "tfng"], .ofRows ["302"]),
  (["glag", "latn", "sunu", "syrc", "thai"], .ofRows ["303"]),
  (["aghb", "cher", "copt", "cyrl", "goth", "grek", "latn", "osge", "syrc", "tfng",
    "todr"], .ofRows ["304"]),
  (["copt", "elba", "glag", "goth", "kana", "latn"], .ofRows ["305"]),
  (["cyrl", "grek", "latn", "perm", "tfng"], .ofRows ["306"]),
  (["copt", "dupl", "hebr", "latn", "perm", "syrc", "tale", "tfng", "todr"], .ofRows ["307"]),
  (["armn", "cyrl", "dupl", "goth", "grek", "hebr", "latn", "perm", "syrc", "tale",
    "tfng"], .ofRows ["308"]),
  (["latn", "tfng"], .ofRows ["309"]),
  (["dupl", "latn", "syrc"], .ofRows ["30A"]),
  (["cher", "cyrl", "latn", "osge"], .ofRows ["30B"]),
  (["cher", "latn", "tale"], .ofRows ["30C"]),
  (["latn", "sunu"], .ofRows ["30D 310"]),
  (["ethi", "latn"], .ofRows ["30E"]),
  (["cyrl", "latn", "todr"], .ofRows ["311"]),
  (["grek", "latn", "perm", "todr"], .ofRows ["313"]),
  (["cher", "dupl", "kana", "latn", "syrc", "tfng"], .ofRows ["323"]),
  (["cher", "dupl", "latn", "syrc"], .ofRows ["324"]),
  (["latn", "syrc"], .ofRows ["325 32E"]),
  (["latn", "sunu", "syrc"], .ofRows ["32D"]),
  (["cher", "latn", "syrc"], .ofRows ["330"]),
  (["aghb", "cher", "goth", "latn", "sunu", "syrc", "thai"], .ofRows ["331"]),
  (["grek"], .ofRows ["342 345 1DC0-1DC1"]),
  (["latn", "osge"], .ofRows ["358"]),
  (["aghb", "latn", "todr"], .ofRows ["35E"]),
  (["latn"], .ofRows ["363-36F"]),
  (["copt", "grek"], .ofRows ["374-375"]),
  (["cyrl", "perm"], .ofRows ["483"]),
  (["cyrl", "glag"], .ofRows ["484 487 2E43 A66F"]),
  (["cyrl", "latn"], .ofRows ["485-486"]),
  (["armn", "geor", "glag"], .ofRows ["589"]),
  (["arab", "gara", "nkoo", "rohg", "syrc", "thaa", "yezi"], .ofRows ["60C 61B"]),
  (["arab", "syrc", "thaa"], .ofRows ["61C"]),
  (["adlm", "arab", "gara", "nkoo", "rohg", "syrc", "thaa", "yezi"], .ofRows ["61F"]),
  (["adlm", "arab", "mand", "mani", "ougr", "phlp", "rohg", "sogd", "syrc"], .ofRows ["640"]),
  (["arab", "syrc"], .ofRows ["64B-655 670"]),
  (["arab", "thaa", "yezi"], .ofRows ["660-669"]),
  (["arab", "rohg"], .ofRows ["6D4"]),
  (["beng", "deva", "gran", "gujr", "guru", "knda", "latn", "mlym", "nand", "newa",
    "orya", "shrd", "taml", "telu", "tirh"], .ofRows ["951"]),
  (["beng", "deva", "gran", "gujr", "guru", "knda", "latn", "mlym", "newa", "orya",
    "taml", "telu", "tirh"], .ofRows ["952"]),
  (["beng", "deva", "dogr", "gong", "gonm", "gran", "gujr", "guru", "knda", "mahj",
    "mlym", "nand", "onao", "orya", "sind", "sinh", "sylo", "takr", "taml", "telu",
    "tirh"], .ofRows ["964"]),
  (["beng", "deva", "dogr", "gong", "gonm", "gran", "gujr", "gukh", "guru", "knda",
    "limb", "mahj", "mlym", "nand", "onao", "orya", "sind", "sinh", "sylo", "takr",
    "taml", "telu", "tirh"], .ofRows ["965"]),
  (["deva", "dogr", "kthi", "mahj"], .ofRows ["966-96F"]),
  (["beng", "cakm", "sylo"], .ofRows ["9E6-9EF"]),
  (["guru", "mult"], .ofRows ["A66-A6F"]),
  (["gujr", "khoj"], .ofRows ["AE6-AEF"]),
  (["gran", "taml"], .ofRows ["BE6-BF3 11301 11303 1133B-1133C 11FD0-11FD1 11FD3"]),
  (["knda", "nand", "tutg"], .ofRows ["CE6-CEF"]),
  (["cakm", "mymr", "tale"], .ofRows ["1040-1049"]),
  (["geor", "glag", "latn"], .ofRows ["10FB"]),
  (["runr"], .ofRows ["16EB-16ED"]),
  (["buhd", "hano", "tagb", "tglg"], .ofRows ["1735-1736"]),
  (["mong", "phag"], .ofRows ["1802-1803 1805"]),
  (["beng", "deva", "gran", "knda"], .ofRows ["1CD0 1CD2"]),
  (["deva"], .ofRows ["1CD1 1CD4 1CDB 1CDE-1CDF 1CE3-1CE8 1CEC 1CEE-1CF1"]),
  (["deva", "gran", "knda"], .ofRows ["1CD3"]),
  (["beng", "deva", "newa", "telu", "tirh"], .ofRows ["1CD5"]),
  (["beng", "deva", "telu"], .ofRows ["1CD6"]),
  (["deva", "newa", "shrd"], .ofRows ["1CD7"]),
  (["beng", "deva", "newa", "telu"], .ofRows ["1CD8"]),
  (["deva", "shrd"], .ofRows ["1CD9 1CDC-1CDD 1CE0"]),
  (["deva", "knda", "mlym", "orya", "taml", "telu"], .ofRows ["1CDA"]),
  (["beng", "deva"], .ofRows ["1CE1 1CF5-1CF6"]),
  (["deva", "newa", "tirh"], .ofRows ["1CE2"]),
  (["deva", "nand", "newa"], .ofRows ["1CE9"]),
  (["beng", "deva", "shrd"], .ofRows ["1CEA"]),
  (["deva", "newa"], .ofRows ["1CEB"]),
  (["beng", "deva", "newa", "shrd"], .ofRows ["1CED"]),
  (["beng", "deva", "gran", "knda", "mlym", "nand", "orya", "sinh", "telu", "tirh",
    "tutg"], .ofRows ["1CF2"]),
  (["deva", "gran"], .ofRows ["1CF3 1CF8-1CF9"]),
  (["deva", "gran", "knda", "tutg"], .ofRows ["1CF4"]),
  (["beng"], .ofRows ["1CF7"]),
  (["nand"], .ofRows ["1CFA"]),
  (["cyrl", "latn", "syrc"], .ofRows ["1DF8"]),
  (["syrc"], .ofRows ["1DFA"]),
  (["latn", "mong", "phag"], .ofRows ["202F"]),
  (["adlm", "arab"], .ofRows ["204F"]),
  (["cari", "geor", "glag", "hung", "lyci", "orkh"], .ofRows ["205A"]),
  (["cari", "grek", "hung", "mero"], .ofRows ["205D"]),
  (["deva", "gran", "latn"], .ofRows ["20F0"]),
  (["copt", "latn"], .ofRows ["2E17"]),
  (["avst", "orkh"], .ofRows ["2E30"]),
  (["avst", "cari", "geor", "hung", "kthi", "lydi", "samr"], .ofRows ["2E31"]),
  (["dupl"], .ofRows ["2E3C 1BCA0-1BCA3"]),
  (["adlm", "arab", "hung"], .ofRows ["2E41"]),
  (["hani", "tang"], .ofRows ["2FF0-2FFF 31EF"]),
  (["bopo", "hang", "hani", "hira", "kana", "mong", "yiii"], .ofRows ["3001"]),
  (["bopo", "hang", "hani", "hira", "kana", "mong", "phag", "yiii"], .ofRows ["3002"]),
  (["bopo", "hang", "hani", "hira", "kana"], .ofRows
    ["3003 3013 301C-301F 3030 3037 FE45-FE46"]),
  (["hani"], .ofRows
    ["3006 303E-303F 3190-319F 31C0-31E5 3220-3247 3280-32B0 32C0-32CB 32FF 3358-3370",
     "337B-337F 33E0-33FE 1D360-1D371 1F250-1F251"]),
  (["bopo", "hang", "hani", "hira", "kana", "mong", "tibt", "yiii"], .ofRows ["3008-3009"]),
  (["bopo", "hang", "hani", "hira", "kana", "lisu", "mong", "tibt", "yiii"], .ofRows
    ["300A-300B"]),
  (["bopo", "hang", "hani", "hira", "kana", "yiii"], .ofRows
    ["300C-3011 3014-301B 30FB FF61-FF65"]),
  (["bopo", "hani"], .ofRows ["302A-302D"]),
  (["hira", "kana"], .ofRows ["3031-3035 3099-309C 30A0 30FC FF70 FF9E-FF9F"]),
  (["hani", "hira", "kana"], .ofRows ["303C-303D"]),
  (["hani", "latn"], .ofRows ["A700-A707"]),
  (["deva", "dogr", "gujr", "guru", "khoj", "knda", "kthi", "mahj", "mlym", "modi",
    "nand", "shrd", "sind", "takr", "tirh", "tutg"], .ofRows ["A830-A832"]),
  (["deva", "dogr", "gujr", "guru", "khoj", "knda", "kthi", "mahj", "modi", "nand",
    "shrd", "sind", "takr", "tirh", "tutg"], .ofRows ["A833-A835"]),
  (["deva", "dogr", "gujr", "guru", "khoj", "kthi", "mahj", "modi", "sind", "takr",
    "tirh"], .ofRows ["A836-A837 A839"]),
  (["deva", "dogr", "gujr", "guru", "khoj", "kthi", "mahj", "modi", "shrd", "sind",
    "takr", "tirh"], .ofRows ["A838"]),
  (["beng", "deva", "tutg"], .ofRows ["A8F1"]),
  (["deva", "taml"], .ofRows ["A8F3"]),
  (["kali", "latn", "mymr"], .ofRows ["A92E"]),
  (["bugi", "java"], .ofRows ["A9CF"]),
  (["arab", "nkoo"], .ofRows ["FD3E-FD3F"]),
  (["arab", "thaa"], .ofRows ["FDF2 FDFD"]),
  (["cpmn", "cprt", "linb"], .ofRows ["10100-10101"]),
  (["cprt", "linb"], .ofRows ["10102 10137-1013F"]),
  (["cprt", "lina", "linb"], .ofRows ["10107-10133"]),
  (["arab", "copt"], .ofRows ["102E0-102FB"]),
  (["mani", "ougr"], .ofRows ["10AF2"])]

end Overlay.Unicode
