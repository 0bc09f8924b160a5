import SettingText.Calendar.Region

/-!
The regions whose civil time is on record. Each change is an instant, in seconds counted from the
start of the day before year 1, with the seconds ahead of universal time from then on.
-/

namespace SettingText.Calendar.Regions

/-- The changes in France up to 1995. -/
def parisChanges : List (Int × Int) := [
  (60279724239, 0), (60445868400, 3600), (60455286000, 0), (60470319600, 3600), (60487340400, 0),
  (60500559600, 3600), (60518790000, 0), (60531404400, 3600), (60550239600, 0), (60561644400, 3600),
  (60583417200, 0), (60595686000, 3600), (60615126000, 0), (60628172400, 3600), (60645106800, 0),
  (60665065200, 3600), (60676556400, 0), (60691676400, 3600), (60708006000, 0), (60723730800, 3600),
  (60739455600, 0), (60756390000, 3600), (60770905200, 0), (60787234800, 3600), (60802354800, 0),
  (60819289200, 3600), (60834409200, 0), (60851343600, 3600), (60865858800, 0), (60882188400, 3600),
  (60897308400, 0), (60914242800, 3600), (60928758000, 0), (60944482800, 3600), (60960207600, 0),
  (60975327600, 3600), (60992262000, 0), (61007986800, 3600), (61023711600, 0), (61038831600, 3600),
  (61055161200, 0), (61072095600, 3600), (61086610800, 0), (61102335600, 3600), (61118060400, 0),
  (61133180400, 3600), (61149510000, 0), (61166444400, 3600), (61185193200, 0), (61193671200, 3600),
  (61203247200, 7200), (61278426000, 3600), (61291126800, 7200), (61307456400, 3600),
  (61323181200, 7200), (61339417200, 3600), (61354630800, 7200), (61369059600, 3600),
  (62332502400, 7200), (62348223600, 3600), (62364560400, 7200), (62379680400, 3600),
  (62396010000, 7200), (62411734800, 3600), (62427459600, 7200), (62443184400, 3600),
  (62459514000, 7200), (62474634000, 3600), (62490358800, 7200), (62506083600, 3600),
  (62521808400, 7200), (62537533200, 3600), (62553258000, 7200), (62568982800, 3600),
  (62584707600, 7200), (62601037200, 3600), (62616762000, 7200), (62632486800, 3600),
  (62648211600, 7200), (62663936400, 3600), (62679661200, 7200), (62695386000, 3600),
  (62711110800, 7200), (62726835600, 3600), (62742560400, 7200), (62758285200, 3600),
  (62774010000, 7200), (62790339600, 3600), (62806064400, 7200), (62821789200, 3600),
  (62837514000, 7200), (62853238800, 3600), (62868963600, 7200), (62884688400, 3600),
  (62900413200, 7200), (62916138000, 3600), (62931862800, 7200), (62947587600, 3600)]

/-- The changes in the east of the United States up to 2006. -/
def newYorkChanges : List (Int × Int) := [
  (59418032400, -18000), (60502402800, -14400), (60520543200, -18000), (60533852400, -14400),
  (60551992800, -18000), (60565302000, -14400), (60584047200, -18000), (60599170800, -14400),
  (60612472800, -18000), (60631225200, -14400), (60643922400, -18000), (60662674800, -14400),
  (60675976800, -18000), (60694124400, -14400), (60707426400, -18000), (60725574000, -14400),
  (60738876000, -18000), (60757023600, -14400), (60770325600, -18000), (60788473200, -14400),
  (60801775200, -18000), (60820527600, -14400), (60833829600, -18000), (60851977200, -14400),
  (60865279200, -18000), (60883426800, -14400), (60896728800, -18000), (60914876400, -14400),
  (60928178400, -18000), (60946326000, -14400), (60959628000, -18000), (60978380400, -14400),
  (60991077600, -18000), (61009830000, -14400), (61023132000, -18000), (61041279600, -14400),
  (61054581600, -18000), (61072729200, -14400), (61086031200, -18000), (61104178800, -14400),
  (61117480800, -18000), (61135628400, -14400), (61148930400, -18000), (61167682800, -14400),
  (61180380000, -18000), (61199132400, -14400), (61212434400, -18000), (61230582000, -14400),
  (61243884000, -18000), (61255465200, -14400), (61370287200, -18000), (61388434800, -14400),
  (61401736800, -18000), (61419884400, -14400), (61433186400, -18000), (61451334000, -14400),
  (61464636000, -18000), (61482783600, -14400), (61496085600, -18000), (61514838000, -14400),
  (61527535200, -18000), (61546287600, -14400), (61559589600, -18000), (61577737200, -14400),
  (61591039200, -18000), (61609186800, -14400), (61622488800, -18000), (61640636400, -14400),
  (61653938400, -18000), (61672086000, -14400), (61688412000, -18000), (61704140400, -14400),
  (61719861600, -18000), (61735590000, -14400), (61751311200, -18000), (61767039600, -14400),
  (61782760800, -18000), (61798489200, -14400), (61814210400, -18000), (61829938800, -14400),
  (61846264800, -18000), (61861993200, -14400), (61877714400, -18000), (61893442800, -14400),
  (61909164000, -18000), (61924892400, -14400), (61940613600, -18000), (61956342000, -14400),
  (61972063200, -18000), (61987791600, -14400), (62004117600, -18000), (62019241200, -14400),
  (62035567200, -18000), (62051295600, -14400), (62067016800, -18000), (62082745200, -14400),
  (62098466400, -18000), (62114194800, -14400), (62129916000, -18000), (62145644400, -14400),
  (62161365600, -18000), (62177094000, -14400), (62193420000, -18000), (62209148400, -14400),
  (62224869600, -18000), (62240598000, -14400), (62256319200, -18000), (62262370800, -14400),
  (62287768800, -18000), (62298054000, -14400), (62319218400, -18000), (62334946800, -14400),
  (62351272800, -18000), (62366396400, -14400), (62382722400, -18000), (62398450800, -14400),
  (62414172000, -18000), (62429900400, -14400), (62445621600, -18000), (62461350000, -14400),
  (62477071200, -18000), (62492799600, -14400), (62508520800, -18000), (62524249200, -14400),
  (62540575200, -18000), (62555698800, -14400), (62572024800, -18000), (62587753200, -14400),
  (62603474400, -18000), (62619202800, -14400), (62634924000, -18000), (62650652400, -14400),
  (62666373600, -18000), (62680287600, -14400), (62697823200, -18000), (62711737200, -14400),
  (62729877600, -18000), (62743186800, -14400), (62761327200, -18000), (62774636400, -14400),
  (62792776800, -18000), (62806690800, -14400), (62824226400, -18000), (62838140400, -14400),
  (62855676000, -18000), (62869590000, -14400), (62887730400, -18000), (62901039600, -14400),
  (62919180000, -18000), (62932489200, -14400), (62950629600, -18000), (62964543600, -14400),
  (62982079200, -18000), (62995993200, -14400), (63013528800, -18000), (63027442800, -14400),
  (63044978400, -18000), (63058892400, -14400), (63077032800, -18000), (63090342000, -14400),
  (63108482400, -18000), (63121791600, -14400), (63139932000, -18000), (63153846000, -14400),
  (63171381600, -18000), (63185295600, -14400), (63202831200, -18000), (63216745200, -14400),
  (63234885600, -18000), (63248194800, -14400), (63266335200, -18000), (63279644400, -14400),
  (63297784800, -18000)]

def kolkataChanges : List (Int × Int) := [
  (58490445992, 21200), (58979988400, 19270), (60115977530, 19800), (61244101800, 23400),
  (61263624600, 19800), (61273045800, 23400), (61371538200, 19800)]

/-- A region whose clocks never change. -/
def fixed (name : String) (seconds : Int) : RegionRecord := ⟨name, seconds, [], none, 0⟩

/-- Since 1996 summer time lasts from the last Sunday of March to the last Sunday of October. -/
def paris : RegionRecord :=
  ⟨"Europe/Paris", 561, RegionRecord.changesFrom 561 parisChanges,
    some ⟨3600, 7200, ⟨3, 5, 7200⟩, ⟨10, 5, 10800⟩⟩, 1996⟩

/-- Since 2007 summer time lasts from the second Sunday of March to the first Sunday of November. -/
def newYork : RegionRecord :=
  ⟨"America/New_York", -17762, RegionRecord.changesFrom (-17762) newYorkChanges,
    some ⟨-18000, -14400, ⟨3, 2, 7200⟩, ⟨11, 1, 7200⟩⟩, 2007⟩

/-- India keeps one time all year. -/
def kolkata : RegionRecord :=
  ⟨"Asia/Kolkata", 21208, RegionRecord.changesFrom 21208 kolkataChanges, none, 0⟩

def all : List RegionRecord :=
  [fixed "UTC" 0, fixed "Etc/GMT+5" (-18000), fixed "Etc/GMT-14" 50400, kolkata, paris, newYork]

/-- The region of a name, written exactly as on record. -/
def find? (name : String) : Option Region :=
  (all.find? (·.name == name)).map RegionRecord.region

end SettingText.Calendar.Regions
