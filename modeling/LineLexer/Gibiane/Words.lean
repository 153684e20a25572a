/-
The words of Gibiane.

Each list has one category, and no word stands in two lists.  The built-in operators
and procedures are listed by initial.
-/
import LineLexer.Category
import LineLexer.Text.Basic

namespace LineLexer.Gibiane

/-! ### Words with a fixed meaning -/

/-- Constants of the language. -/
def constants : List String := [
  "TRUE", "VRAI", "FALSE", "FAUX", "NULL", "SPACE", "LIGNE", "LIGNES"]

/-- Types of objects. -/
def storageTypes : List String := [
  "ENTIER", "ENTI", "FLOTTANT", "FLOT", "LISTENTI", "LISTREEL", "MOT", "MOTS", "LISTMOTS",
  "LOGIQUE", "TABLE", "EVOLUTIO", "TEXTE", "TEXT"]

/-- Control flow, and the delimiters of procedures and methods. -/
def control : List String := [
  "SI", "SINON", "SINO", "FINSI", "FINS", "REPETER", "REPE", "FIN", "QUIT", "DEBPROC", "FINPROC",
  "FINP", "DEBMETH", "DEBM", "FINMETH", "FINM"]

/-! ### Built-in operators and procedures -/

/-- Built-ins that begin with A. -/
def builtinsA : List String := [
  "ABS", "ACCDCHI1", "ACCDCHI2", "ACCEVITE", "ACIER", "ACOS", "ACQU", "ACT3", "ACTI", "ACTI3",
  "ACTUSAT1", "ACTUSAT2", "ACTUSAT3", "ADET", "ADVE", "AFCO", "AFFI", "AFFICHE", "AIDE", "AJU1",
  "AJU2", "AJUSTE", "ALEA", "AMOR", "ANALYSER", "ANIME", "ANIMGKS", "ANLIMTRE", "ANNOIMP",
  "ANNU", "ANTI", "APPU", "ARCGAU", "ARET", "ARGU", "ASIN", "ASPARAM", "ASSI", "ATG", "AUTOPILO",
  "AVCT"]

/-- Built-ins that begin with B. -/
def builtinsB : List String := [
  "BALOURD", "BARY", "BASE", "BGMO", "BIF", "BILI_EFZ", "BILI_MOY", "BIOT", "BIOVOL", "BLOQ",
  "BMTD", "BOA", "BRUCHE", "BRUI", "BSIG"]

/-- Built-ins that begin with C. -/
def builtinsC : List String := [
  "CALACTIV", "CALCDISP", "CALCP", "CALCTRAC", "CALCULER", "CALLM", "CALMU", "CALP", "CAMPBELL",
  "CAPA", "CAPI", "CARA", "CBLO", "CCDONCHI", "CCON", "CER3", "CERC", "CFL", "CFND", "CH_THETA",
  "CH_THETX", "CH2CLIM", "CHAI", "CHAMINT", "CHAN", "CHANOLII", "CHANUOBJ", "CHANVCOM",
  "CHANVESP", "CHANVSOS", "CHAR", "CHARTHER", "CHAU", "CHDCLIM", "CHI1", "CHI2", "CHITRNSP",
  "CHOC", "CHOI", "CHPO", "CHPR0", "CHSP", "CHTGAU", "CHTITR", "CINEMA", "CINEMB", "CINIMOD",
  "CLMI", "CLST", "CMCT", "CMOY", "CNEQ", "COAC", "CODENORM", "COLI", "COLLER", "COLLER1",
  "COMB", "COMM", "COMP", "COMT", "CONC", "COND", "CONDENS", "CONF", "CONG", "CONN", "CONT",
  "CONTSEG3", "CONV", "CONVT", "COOR", "COPI", "COQ2MAS", "CORI", "CORMAN", "CORMASSE", "COS",
  "COSH", "COSI", "COTE", "COUL", "COUP", "COUPLER", "COUR", "COUR3D", "COURSPEC", "COUT",
  "CREER_3D", "CRIT", "CRITLOC", "CSON", "CTOD", "CUBP", "CUBT", "CVOL"]

/-- Built-ins that begin with D. -/
def builtinsD : List String := [
  "DALL", "DANS", "DARCYSAT", "DARCYTRA", "DBIT", "DCOV", "DDFOUR", "DEADFONC", "DEADJACO",
  "DEADKTAN", "DEADRESI", "DEADUTIL", "DEBI", "DEBP", "DEBU", "DECO", "DECONV", "DECONV3D",
  "DEDANS", "DEDO", "DEDU", "DEDUADAP", "DEFO", "DEG3", "DENS", "DEPB", "DEPI", "DEPL", "DEPOU",
  "DESCOUR", "DESS", "DESTRA", "DETO", "DETR", "DEVE", "DFDT", "DFER", "DFOU", "DGSI", "DIAD",
  "DIAG", "DIFF", "DIFFANIS", "DIME", "DIMN", "DIRI", "DIVU", "DMMU", "DMTD", "DOMA", "DONCHI1",
  "DONCHI2", "DREXUS", "DROI", "DSPR", "DUDW", "DUPONT2", "DYNAMIC", "DYNAMOD2", "DYNAMOD3",
  "DYNAMODE", "DYNE"]

/-- Built-ins that begin with E. -/
def builtinsE : List String := [
  "EC8ACSIS", "ECFE", "ECHI", "ECHIMP", "ECOU", "EGA", "ELAS", "ELECNEUT", "ELEM", "ELFE",
  "ELIM", "ELNO", "ELST", "ENCEINTE", "ENER", "ENERMODE", "ENLE", "ENRICHIS", "ENSE", "ENVE",
  "EPAIFUT", "EPSI", "EPTH", "EQEX", "EQPR", "EQUI", "ERF", "ERRE", "ET", "ETG", "EVOL", "EXAC",
  "EXCE", "EXCF", "EXCI", "EXCO", "EXCP", "EXEC", "EXECRXT", "EXIC", "EXIS", "EXP", "EXPLORER",
  "EXTC", "EXTE", "EXTR"]

/-- Built-ins that begin with F. -/
def builtinsF : List String := [
  "F_S2PI", "FACE", "FACTORIE", "FANT", "FCOURANT", "FDENS", "FDT", "FFOR", "FIABILI", "FILT",
  "FILTREKE", "FIMP", "FINVREPA", "FION", "FISS", "FLAM", "FLAMBAGE", "FLUX", "FOFI", "FONC",
  "FOR_CONT", "FORBLOC", "FORC", "FORM", "FORNOD", "FOUR2TRI", "FPA", "FPAL", "FPT", "FPU",
  "FREPART", "FREQPERI", "FRIG", "FRON", "FRONABS", "FROT", "FSUR", "FUIT"]

/-- Built-ins that begin with G. -/
def builtinsG : List String := [
  "G_CALCUL", "G_THETA", "G_THETA1", "GAM1", "GANE", "GDFLIM1", "GENE", "GENJ", "GMV", "GRAD",
  "GRAF", "GREE", "GRESP", "GYRO"]

/-- Built-ins that begin with H. -/
def builtinsH : List String := [
  "H_B", "HANN", "HASOFER", "HAUBAN", "HDEB", "HERI", "HIST", "HOMO", "HOOK", "HOTA", "HP_PRO",
  "HRAYO", "HRCAV", "HT_PRO", "HTC_CHBW", "HTC_PER", "HTC_WTR", "HTC_WWW", "HTCTRAN", "HVIT",
  "HYBP"]

/-- Built-ins that begin with I. -/
def builtinsI : List String := [
  "IDBHT", "IDENTI", "IDLI", "IFRE", "IJET", "IMAGES", "IMPCHI1", "IMPCHI2", "IMPE", "IMPF",
  "IMPO", "IN_MINI", "INCL", "INCREME", "INCREME2", "INDE", "INDI", "INDIBETA", "INDIOBJE",
  "INDUCTIO", "INFO", "INICHI1", "INICHI2", "INICHIMI", "INIMUR", "ININLIN", "INITVF", "INSE",
  "INSI", "INT_COMP", "INTE", "INTEFMH", "INTG", "INVA", "INVE", "IPOL", "ISOV", "ITER", "ITRC"]

/-- Built-ins that begin with J. -/
def builtinsJ : List String := [
  "JACO", "JEU", "JONC"]

/-- Built-ins that begin with K. -/
def builtinsK : List String := [
  "K_PRO", "KBBT", "KCHA", "KCHT", "KCOT", "KCTR", "KDIA", "KDME", "KDMI", "KDOM", "KENT",
  "KEPSILON", "KFCE", "KFPA", "KFPT", "KHIS", "KLNO", "KLOP", "KMAB", "KMAC", "KMBT", "KMCT",
  "KMF", "KMTP", "KNRF", "KONV", "KOPS", "KP", "KPRO", "KR_PRO", "KRED", "KRES", "KRESP", "KSIG",
  "KSOF", "KTAN", "KUET", "KVOL", "KWEIB1"]

/-- Built-ins that begin with L. -/
def builtinsL : List String := [
  "LAPL", "LAPN", "LCH2CLIM", "LCH2DELP", "LCH2EPS", "LCH2FION", "LCH2IAFF", "LCH2IMPR",
  "LCH2ITMA", "LCH2ITSO", "LCH2LOGC", "LCH2MDEL", "LCH2NFI", "LCH2NITE", "LCH2NTY4", "LCH2PREP",
  "LCH2SORT", "LCH2TEMP", "LCH2TOT", "LECT", "LESPCOMP", "LESPITYP", "LESPLOGK", "LESPSOE",
  "LEVM", "LIAI", "LIBDD", "LICHXMX", "LICOCHAR", "LICOMNOM", "LIESPECE", "LIGN", "LILIDEN",
  "LILIECH", "LIMEMECA", "LINBIDEN", "LINVCOMP", "LIRE", "LIREFLOT", "LIRSOSO", "LIST",
  "LITEMPER", "LOG", "LOGK", "LSOSFRAC", "LSOSSOLI", "LSQF", "LTL", "LUMP"]

/-- Built-ins that begin with M. -/
def builtinsM : List String := [
  "M_DAMP_K", "M_DAMPIN", "MAG_NLIN", "MAGN", "MAILSTRU", "MANU", "MAPP", "MASQ", "MASS", "MATE",
  "MATP", "MAX1", "MAXI", "MAYOTO", "MDIA", "MDNRIS", "MDRECOMB", "MEC1", "MEC2", "MEC3", "MECA",
  "MENA", "MENU", "MESM", "MESS", "MESU", "METH", "MHYB", "MINI", "MOCA", "MOCU", "MODE", "MOIN",
  "MOME", "MONTAGNE", "MOTA", "MOYESPEC", "MPRO", "MREM", "MULC", "MULT", "MULTIDEC", "MULTIREC",
  "MUTU"]

/-- Built-ins that begin with N. -/
def builtinsN : List String := [
  "NATAF", "NAVI", "NAVIER", "NBEL", "NBNO", "NEG", "NEUT", "NEWMARK", "NLIN", "NLOC", "NNOR",
  "NOCOMCHI", "NOEL", "NOESPCHI", "NOEU", "NOMC", "NON", "NONLIN", "NORM", "NORMALIM", "NORV1",
  "NOTI", "NOUV", "NS", "NSCLIM", "NSKE", "NTAB", "NUAG"]

/-- Built-ins that begin with O. -/
def builtinsO : List String := [
  "OBJE", "OBTE", "ONDE", "OPTI", "ORDO", "ORIE", "ORTH", "OSCI", "OTER", "OU", "OUBL", "OUVFISS"]

/-- Built-ins that begin with P. -/
def builtinsP : List String := [
  "PARA", "PARASTAT", "PARC", "PARMCHI2", "PART", "PAS_ETAT", "PAS_SAUV", "PAS_VERM", "PASAPAS",
  "PAVE", "PECHE", "PENT", "PERM", "PERT", "PFLUAGE", "PHAJ", "PHASAGE", "PICA", "PILE", "PJBA",
  "PLAC", "PLUS", "PMAT", "PMIX", "PMPB", "POIN", "POINTCYL", "POINTSPH", "POLA", "POLYNO",
  "POSS", "POSTDDI", "POSTDDI1", "POT_SCAL", "POT_VECT", "POUT2MAS", "PPRE", "PREC", "PREPAENC",
  "PRES", "PRET", "PRIM", "PRIN", "PRNS", "PROB", "PROBABRS", "PROBDENS", "PRODT", "PROG",
  "PROI", "PROJ", "PROP", "PROPAG", "PSATT", "PSCA", "PSIP", "PSMO", "PSRS", "PVEC"]

/-- Built-ins that begin with Q. -/
def builtinsQ : List String := [
  "QOND", "QUADRATU", "QUEL", "QULX"]

/-- Built-ins that begin with R. -/
def builtinsR : List String := [
  "RACC", "RACP", "RAFF", "RAFT", "RAMBERG", "RAVC", "RAY", "RAYE", "RAYN", "RDIV", "REAC",
  "RECENTRE", "RECO", "RECOMPOM", "RECOMPOS", "REDU", "REFE", "REGE", "REGL", "RELA", "REMP",
  "REPART", "REPIX", "RESEAU", "RESI", "RESO", "RESO_ASY", "RESP", "RESPOWNS", "RESPOWSP",
  "REST", "RESU", "RETO", "RETRAIT", "RETSAT", "RIGI", "RIMP", "ROSENT", "ROTA", "RSET", "RTEN",
  "RVSAT", "RVST2"]

/-- Built-ins that begin with S. -/
def builtinsS : List String := [
  "SAIS", "SATUTILS", "SAUF", "SAUT", "SAUV", "SEIS", "SENS", "SGE", "SIAR", "SIF", "SIGM",
  "SIGN", "SIGNCORR", "SIGNDERI", "SIGNENVE", "SIGNSYNT", "SIGS", "SILAM", "SIMP", "SIN", "SINH",
  "SISSIB", "SMTP", "SOLS", "SOLVEFMH", "SOLVVF", "SOMM", "SOMT", "SORE", "SORT", "SOUR", "SPAL",
  "SPO", "SPON", "SPPLANC", "SQTP", "SSCH", "SSTE", "STRU", "SUIT", "SUPE", "SURF", "SYME",
  "SYMT", "SYNT"]

/-- Built-ins that begin with T. -/
def builtinsT : List String := [
  "T_IPOL", "T_PITETA", "TABL", "TAGR", "TAIL", "TAKM_EFZ", "TAKM_MOY", "TAN", "TANH", "TASS",
  "TCNM", "TCRR", "TEMP", "TENSION", "TFR", "TFRI", "THERMIC", "THET", "TIRE", "TITR", "TOIM",
  "TOTE", "TOUR", "TRAC", "TRAC3D", "TRAC3D_2", "TRACHIS", "TRACHIT", "TRACMECA", "TRACTUFI",
  "TRADUIRE", "TRAJ", "TRAN", "TRANGEOL", "TRANSFER", "TRANSGEN", "TRANSIT0", "TRANSIT1",
  "TRANSIT2", "TRANSIT3", "TRANSLIN", "TRANSNON", "TRES", "TRIA", "TRIE", "TRTRAJEC", "TSCA",
  "TYPE"]

/-- Built-ins that begin with U. -/
def builtinsU : List String := [
  "UNILATER", "UNILSSUP", "UNPAS", "UPDAEFMH", "UPDAVF", "UTIL"]

/-- Built-ins that begin with V. -/
def builtinsV : List String := [
  "VALE", "VALNOM"]

/-- Built-ins that begin with Z. -/
def builtinsZ : List String := [
  "ZERO", "ZIGZAG", "ZLEG"]

/-- All built-in operators and procedures. -/
def builtins : List String :=
  builtinsA ++ builtinsB ++ builtinsC ++ builtinsD ++ builtinsE ++ builtinsF ++ builtinsG ++
    builtinsH ++ builtinsI ++ builtinsJ ++ builtinsK ++ builtinsL ++ builtinsM ++ builtinsN ++
    builtinsO ++ builtinsP ++ builtinsQ ++ builtinsR ++ builtinsS ++ builtinsT ++ builtinsU ++
    builtinsV ++ builtinsZ

/-- Every list with its category. -/
def keywordLists : List (Category × List Text) :=
  [(.languageConstant, constants.map String.toList), (.storageType, storageTypes.map String.toList),
    (.controlKeyword, control.map String.toList), (.builtinFunction, builtins.map String.toList)]

end LineLexer.Gibiane
